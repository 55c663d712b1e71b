import Rulebook.Description.Entry
import Rulebook.Rule.Provider
import Rulebook.Ruleset.Rule

/-!
# Faults of a description

Why a description is not one of a ruleset, and where the reason was found.
-/

namespace Rulebook

open Json (Value)

/-- The parts of a description that have a shape of their own. -/
inductive Part where
  /-- The description of a ruleset as a whole. -/
  | ruleset
  /-- The items of a description that is a list. -/
  | rulesetItem
  | tableElements
  | declaredElements
  /-- The object around the rules for items. -/
  | listItems
  deriving DecidableEq, Repr

/-- The name of a part. -/
def Part.name : Part → String
  | .ruleset => "ruleset"
  | .rulesetItem => "ruleset"
  | .tableElements => "tableElements"
  | .declaredElements => "rulesByElements"
  | .listItems => "listItems"

/-- The shape of a part. -/
def Part.shape : Part → String
  | .ruleset => "an object, a list or a rule name"
  | .rulesetItem => "a list of rule names and objects"
  | .tableElements => "an object"
  | .declaredElements => "an object"
  | .listItems => "an object with " ++ Text.ticked "itemRules"

/-- Why the argument of a rule is refused. -/
inductive ArgumentRefusal where
  /-- A rule cannot be switched off. -/
  | switchedOff
  /-- The provider cannot use the arguments. -/
  | unusable (error : ProviderError)
  deriving Repr

/-- The reason of a refusal. -/
def ArgumentRefusal.message : ArgumentRefusal → String
  | .switchedOff => Text.ticked "false" ++ " does not switch a rule off, leave it out instead"
  | .unusable (.badArgument _ reason) => reason
  | .unusable error => error.message

/-- What is wrong with a list of values. -/
inductive EnumFault where
  | notList
  | noValues
  | nullValue
  | notScalar (found : Value)
  deriving Repr

/-- The sentence that says what is wrong. -/
def EnumFault.message : EnumFault → String
  | .notList => "expects a list of values"
  | .noValues => "lists no values"
  | .nullValue => Text.ticked "null" ++ " is not a value, use " ++ Text.ticked "nullable"
  | .notScalar found => "values must be scalars, got " ++ found.text

/-- What is wrong with the policy for undeclared keys. -/
inductive MembershipFault where
  | notList (name : String)
  | notKey (name : String) (found : Value)
  | declaredKey (name key : String)
  | severalPolicies
  deriving Repr

/-- The sentence that says what is wrong. -/
def MembershipFault.message : MembershipFault → String
  | .notList name => Text.ticked name ++ " must be a list of keys"
  | .notKey name found =>
    Text.ticked name ++ " entries must be strings, got " ++ found.text
  | .declaredKey name key => Text.ticked name ++ " lists declared key " ++ Text.ticked key
  | .severalPolicies =>
    "at most one of " ++ Text.ticked "exclusive" ++ ", " ++ Text.ticked "whitelist" ++ " and "
      ++ Text.ticked "blacklist" ++ " may be set"

/-- What is wrong with the bounds on the number of items. -/
inductive OccurrenceFault where
  | notCount (name : String) (found : Value)
  | inverted (most least : Nat)
  deriving Repr

/-- The sentence that says what is wrong. -/
def OccurrenceFault.message : OccurrenceFault → String
  | .notCount name found =>
    Text.ticked name ++ " must be a non-negative integer, got " ++ found.text
  | .inverted most least =>
    Text.ticked "maxOccur" ++ s!" {most} is below " ++ Text.ticked "minOccur" ++ s!" {least}"

/-- What is wrong with a description. -/
inductive DefinitionFault where
  | unknownRule (name : String) (formerNames : List String)
  | duplicateRule (name : String) (formerNames : List String)
  | arity (name : String) (formerNames : List String) (required allowed given : Nat)
  | badArgument (name : String) (formerNames : List String) (refusal : ArgumentRefusal)
  | badFlag (name : String)
  | badEnum (key : CoreKey) (fault : EnumFault)
  | contradictoryFlags
  /-- There are no rules, and nothing to choose a type-checking rule by. -/
  | emptyRuleset
  | noTypeGuard (name : String)
  | nestedAlternative (found : CoreKey)
  | badShape (part : Part)
  | unexpectedKey (part : CoreKey) (key : String)
  | membership (fault : MembershipFault)
  | emptyTableElements
  | occurrence (fault : OccurrenceFault)
  | recursionLimit
  deriving Repr

/-- The sentence that says what is wrong. -/
def DefinitionFault.message : DefinitionFault → String
  | .unknownRule name former => "unknown rule " ++ Text.ticked (labelText name former)
  | .duplicateRule name former => "duplicate rule " ++ Text.ticked (labelText name former)
  | .arity name former required allowed given =>
    "rule " ++ Text.ticked (labelText name former)
      ++ s!" takes {arityText required allowed} argument(s), {given} given"
  | .badArgument name former refusal =>
    "rule " ++ Text.ticked (labelText name former) ++ ": " ++ refusal.message
  | .badFlag name => Text.ticked name ++ " must be a boolean"
  | .badEnum key fault => Text.ticked key.name ++ ": " ++ fault.message
  | .contradictoryFlags =>
    Text.ticked "empty" ++ " and " ++ Text.ticked "nonEmpty" ++ " are mutually exclusive"
  | .emptyRuleset =>
    "ruleset declares no rules and nothing to infer a type-checking rule from"
  | .noTypeGuard name => "no type-checking rule is compatible with rule " ++ Text.ticked name
  | .nestedAlternative found =>
    Text.ticked "alternativeRuleSet" ++ " must not contain " ++ Text.ticked found.name
  | .badShape part => Text.ticked part.name ++ " must be " ++ part.shape
  | .unexpectedKey part key => Text.ticked part.name ++ " does not take key " ++ Text.ticked key
  | .membership fault => Text.ticked "tableElements" ++ ": " ++ fault.message
  | .emptyTableElements => Text.ticked "tableElements" ++ " declares no elements"
  | .occurrence fault => Text.ticked "listItems" ++ ": " ++ fault.message
  | .recursionLimit => s!"ruleset nesting exceeds {maxDepth} levels"

/-- A fault of a description with its place. -/
structure DefinitionError where
  fault : DefinitionFault
  place : Location
  deriving Repr

/-- The report of a fault. -/
def DefinitionError.message (e : DefinitionError) : String :=
  e.fault.message ++ ", " ++ e.place.text

end Rulebook
