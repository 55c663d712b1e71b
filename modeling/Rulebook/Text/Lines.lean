import Rulebook.Unicode.Blank

/-!
# Lines

A line ends at a line feed, which may have a carriage return in front of it. The end of the text ends a
line too, unless a line feed is the last character.
-/

namespace Rulebook.Text

/-- A line without the carriage return in front of its line feed. -/
def withoutReturn (line : List Char) : List Char :=
  if line.getLast? == some '\r' then line.dropLast else line

/-- The lines of a text, given the characters of the current line in front of it, latest first. -/
def linesFrom (current : List Char) : List Char → List (List Char)
  | [] => if current.isEmpty then [] else [current.reverse]
  | c :: rest =>
    if c = '\n' then withoutReturn current.reverse :: linesFrom [] rest
    else linesFrom (c :: current) rest

/-- The lines of a text. -/
def lines (cs : List Char) : List (List Char) := linesFrom [] cs

/-- Whether a line holds nothing but blanks. -/
def isBlankLine (line : List Char) : Bool := line.all Unicode.isBlank

end Rulebook.Text
