import Rulebook.Text.Excerpt
import Rulebook.Unicode.Property

/-!
# Quoted text in reports

A text that a report quotes in full stands between double quotes. Quotes, backslashes and whatever could
not be told apart on paper are written as escapes.
-/

namespace Rulebook.Text

/-- A character as quoted text shows it. -/
def quotedChar (c : Char) : List Char :=
  if c = '"' then ['\\', '"']
  else if c = '\\' then ['\\', '\\']
  else if Unicode.graphemeExtend.contains c || !Unicode.printable.contains c then escapeText c
  else [c]

/-- A text between double quotes. -/
def quoted (s : String) : String :=
  "\"" ++ String.ofList (s.toList.flatMap quotedChar) ++ "\""

end Rulebook.Text
