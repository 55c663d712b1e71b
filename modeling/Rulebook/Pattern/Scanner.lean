import Rulebook.Pattern.Tree
import Rulebook.Unicode.Property

/-!
# Scanning the text of a pattern

The scanner goes over the characters of a pattern and knows the place of each. In verbose mode blanks
and comments between the parts of a pattern are passed over.
-/

namespace Rulebook.Pattern

/-- Where the reading of a pattern stands. -/
structure Scanner where
  /-- The characters that are left. -/
  rest : List Char
  /-- The place of the next character. -/
  place : Place
  /-- Whether blanks and comments are passed over. -/
  verbose : Bool
  /-- The names of the groups read so far, with their spans. -/
  names : List (List Char × Span)

/-- The place behind a character that stands at a place. -/
def Place.after (p : Place) (c : Char) : Place :=
  if c = '\n' then ⟨p.line + 1, 1⟩ else ⟨p.line, p.column + 1⟩

/-- A computation on the scanner that may find a fault at a span. -/
abbrev Scan := StateT Scanner (Except (Span × Fault))

namespace Scan

/-- Ends with a fault at a span. -/
def fail {α : Type} (span : Span) (fault : Fault) : Scan α := throw (span, fault)

/-- The next character. -/
def peek : Scan (Option Char) := do return (← get).rest.head?

/-- The place of the next character. -/
def here : Scan Place := do return (← get).place

/-- Whether the pattern has ended. -/
def atEnd : Scan Bool := do return (← get).rest.isEmpty

/-- The empty span in front of the next character. -/
def emptySpan : Scan Span := do
  let p ← here
  return ⟨p, p⟩

/-- The span from a place to the next character. -/
def spanFrom (start : Place) : Scan Span := do return ⟨start, ← here⟩

/-- The span of the next character. -/
def charSpan : Scan Span := do
  let s ← get
  match s.rest with
  | [] => return ⟨s.place, ⟨s.place.line, s.place.column + 1⟩⟩
  | c :: _ => return ⟨s.place, s.place.after c⟩

/-- The scanner one character further. -/
def forward (s : Scanner) : Scanner :=
  match s.rest with
  | [] => s
  | c :: rest => { s with rest := rest, place := s.place.after c }

/-- Takes a character; says whether another one follows. -/
def bump : Scan Bool := do
  modify forward
  return !(← atEnd)

/-- The scanner behind the given number of characters. -/
def forwardBy (s : Scanner) : Nat → Scanner
  | 0 => s
  | n + 1 => forwardBy (forward s) n

/-- Takes the given characters if they come next. -/
def bumpIf (text : List Char) : Scan Bool := do
  if text.isPrefixOf (← get).rest then
    modify (forwardBy · text.length)
    return true
  else return false

/-- The number of characters in blanks and comments at the start of a text; a comment goes from a hash
sign to the end of its line. -/
def skippable (inComment : Bool) : List Char → Nat
  | [] => 0
  | c :: rest =>
    if inComment then 1 + skippable (c != '\n') rest
    else if Unicode.isBlank c then 1 + skippable false rest
    else if c = '#' then 1 + skippable true rest
    else 0

/-- Passes over blanks and comments in verbose mode. -/
def bumpSpace : Scan Unit :=
  modify fun s => if s.verbose then forwardBy s (skippable false s.rest) else s

/-- Takes a character and what may be passed over behind it; says whether another one follows. -/
def bumpAndSpace : Scan Bool := do
  if ← bump then
    bumpSpace
    return !(← atEnd)
  else return false

/-- The character behind the next one. -/
def peekSecond : Scan (Option Char) := do return ((← get).rest.drop 1).head?

/-- The first character that is neither a blank nor the hash sign of a first comment. -/
def significant (inComment : Bool) : List Char → Option Char
  | [] => none
  | c :: rest =>
    if Unicode.isBlank c then significant inComment rest
    else if !inComment && c == '#' then significant true rest
    else some c

/-- The character behind the next one, blanks not counted in verbose mode. -/
def peekPastSpace : Scan (Option Char) := do
  let s ← get
  let behind := s.rest.drop 1
  if !s.verbose then return behind.head?
  else return (significant false behind).or behind.head?

/-- Takes blanks. -/
def skipBlanks : Scan Unit :=
  modify fun s => forwardBy s (s.rest.takeWhile Unicode.isBlank).length

end Scan

end Rulebook.Pattern
