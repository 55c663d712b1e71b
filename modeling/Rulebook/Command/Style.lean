/-!
# Styled text

Parts of a report may stand out on a terminal. Where styles are off, they leave no trace.
-/

namespace Rulebook.Command

/-- The styles of reports. -/
inductive Style where
  | good
  | goodStrong
  | badStrong
  | strong
  | faint
  deriving DecidableEq, Repr

/-- The terminal's code of a style. -/
def Style.code : Style → String
  | .good => "32"
  | .goodStrong => "1;32"
  | .badStrong => "1;31"
  | .strong => "1"
  | .faint => "2"

/-- A text in a style, if styles are on. -/
def Style.paint (style : Style) (isOn : Bool) (text : String) : String :=
  if isOn then "\x1b[" ++ style.code ++ "m" ++ text ++ "\x1b[0m" else text

end Rulebook.Command
