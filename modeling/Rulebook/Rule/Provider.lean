import Rulebook.Json.Printer
import Rulebook.Rule.Descriptor
import Rulebook.Text.Ticked

/-!
# Rule providers

A provider supplies the descriptions of rules to the reading of rulesets, and their tests to the
challenge of subjects.
-/

namespace Rulebook

open Json (Value)

/-- The misuse of a provider. -/
inductive ProviderError where
  /-- The provider has no rule of this name. -/
  | unknownRule (name : String)
  /-- The rule cannot be run with these arguments, for a reason that is any text. -/
  | badArgument (rule : String) (reason : String)
  deriving Repr

/-- The report of a misuse. -/
def ProviderError.message : ProviderError → String
  | .unknownRule name => "rule provider has no rule " ++ Text.ticked name
  | .badArgument rule reason => "rule " ++ Text.ticked rule ++ ": " ++ reason

/-- A source of rules. -/
structure Provider where
  /-- The description of a rule by its current name. -/
  descriptor : String → Option Descriptor
  /-- The current name of a rule by its former name. -/
  renamed : String → Option String
  /-- The name of a type-checking rule that can guard rules for a tag. -/
  typeGuard : TypeTag → Option String
  /-- The name of the type-checking rule in front of the rules for children. -/
  containerGuard : String
  /-- Whether a subject counts as empty. -/
  isEmpty : Value → Bool
  /-- Whether a subject is one of a list of values: type and value have to match. -/
  isMember : Value → List Value → Bool
  /-- The kind of container that a subject is. -/
  containerKind : Value → Option ContainerKind
  /-- Whether the arguments of a rule can be used. It is asked once, before any subject is seen. -/
  prepare : String → List Value → Except ProviderError Unit
  /-- Runs a rule on a subject that is not `null`. -/
  check : String → Value → List Value → Except ProviderError Verdict

end Rulebook
