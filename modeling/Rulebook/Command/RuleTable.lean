import Rulebook.Command.Check

/-!
# The table of standard rules

A line for every standard rule: its name, its class, its tag, the numbers of its arguments, its guard and
its former name.
-/

namespace Rulebook.Command

variable [PatternEngine]

/-- A text filled up with blanks to a width. -/
def padded (width : Nat) (text : String) : String :=
  text ++ String.ofList (List.replicate (width - text.length) ' ')

/-- The guard of a rule as the table shows it. -/
def guardText (d : Descriptor) : String :=
  if d.isTypeChecking then "" else (Provider.standard.typeGuard d.semanticType).getD "?"

/-- The former name of a rule as the table shows it. -/
def formerText (d : Descriptor) : String :=
  match d.formerName with
  | some former => s!"(was {former})"
  | none => ""

/-- The line of a rule. -/
def ruleLine (color : Bool) (d : Descriptor) : String :=
  " ".intercalate
    [Style.strong.paint color (padded 22 d.name),
      padded 8 (if d.isTypeChecking then "type" else "pattern"),
      padded 18 d.semanticType.text,
      padded 5 (arityText d.required d.allowed),
      padded 18 (guardText d),
      Style.faint.paint color (formerText d)]

/-- Lists the standard rules, after a look at whether they fit together. -/
def listRules (color : Bool) : Except CommandError Lines :=
  match Standard.integrity with
  | .error fault => .error (.unfitRules fault)
  | .ok () => .ok (StandardRule.all.map fun r => ruleLine color r.descriptor)

end Rulebook.Command
