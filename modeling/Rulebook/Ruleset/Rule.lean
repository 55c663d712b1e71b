import Rulebook.Json.Printer
import Rulebook.Text.Excerpt

/-!
# Rules of a ruleset

A rule as a ruleset holds it: its current name, its arguments, and the former names that it was reached
through.
-/

namespace Rulebook

open Json (Value)

/-- The arguments of a rule. -/
inductive Arguments where
  /-- The rule is switched on and has no arguments. -/
  | flag
  | list (values : List Value)
  deriving Repr

/-- The argument values. -/
def Arguments.values : Arguments → List Value
  | .flag => []
  | .list values => values

/-- Equality of arguments, by equality of values. -/
def Arguments.same : Arguments → Arguments → Bool
  | .flag, .flag => true
  | .list a, .list b => Value.sameItems a b
  | _, _ => false

/-- The arguments as a description gives them. -/
def Arguments.toJson : Arguments → Value
  | .flag => .bool true
  | .list values => .array values

/-- The kinds of rule. -/
inductive RuleKind where
  | typeCheck
  | pattern
  /-- Membership in a list of values. -/
  | enumeration
  deriving DecidableEq, Repr

/-- A rule of a ruleset. -/
structure Rule where
  name : String
  arguments : Arguments
  kind : RuleKind
  /-- The former names that the rule was reached through, oldest last. -/
  formerNames : List String
  deriving Repr

/-- Equality of rules. The former names do not count. -/
def Rule.same (a b : Rule) : Bool :=
  a.name == b.name && a.kind == b.kind && a.arguments.same b.arguments

/-- A name with the former names that it was reached through. -/
def labelText (name : String) (formerNames : List String) : String :=
  if formerNames.isEmpty then name
  else name ++ " (renamed from " ++ " <- ".intercalate formerNames ++ ")"

/-- A report shows this many arguments of a rule. -/
def shownArguments : Nat := 5

/-- The arguments of a rule in a report. -/
def Arguments.text : Arguments → String
  | .flag => ""
  | .list values =>
    "(" ++ ", ".intercalate ((values.take shownArguments).map fun v => Text.excerpt v.text)
      ++ (if shownArguments < values.length then s!", … {values.length - shownArguments} more"
        else "")
      ++ ")"

/-- A rule in a report: its name, its arguments and its former names. -/
def Rule.text (r : Rule) : String := labelText (r.name ++ r.arguments.text) r.formerNames

end Rulebook
