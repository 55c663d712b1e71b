import Rulebook.TypeTag

/-!
# Rule descriptors

What is known about a named rule without running it.
-/

namespace Rulebook

/-- The description of a rule. -/
structure Descriptor where
  /-- The current name of the rule. -/
  name : String
  /-- Type-checking rules are safe on any subject but `null`; pattern rules assume that a
  type-checking rule has narrowed the subject. -/
  isTypeChecking : Bool
  /-- The kinds of subject that the rule works on. -/
  semanticType : TypeTag
  /-- The least number of arguments. -/
  required : Nat
  /-- The greatest number of arguments. -/
  allowed : Nat
  /-- The name that the rule used to go by. -/
  formerName : Option String
  deriving DecidableEq, Repr

/-- A type-checking rule, which takes no arguments. -/
def Descriptor.typeChecking (name : String) (semanticType : TypeTag) : Descriptor :=
  ⟨name, true, semanticType, 0, 0, none⟩

/-- A pattern rule with its number of arguments. -/
def Descriptor.pattern (name : String) (semanticType : TypeTag) (required allowed : Nat) :
    Descriptor :=
  ⟨name, false, semanticType, required, allowed, none⟩

/-- The same rule with a former name. -/
def Descriptor.formerly (d : Descriptor) (name : String) : Descriptor :=
  { d with formerName := some name }

/-- The numbers of arguments as text. -/
def arityText (required allowed : Nat) : String :=
  if required = allowed then toString required else s!"{required}..={allowed}"

/-- The kinds of container. -/
inductive ContainerKind where
  /-- A container of items at ordinal places. -/
  | list
  /-- A container of members with keys. -/
  | map
  deriving DecidableEq, Repr

/-- What a rule says about a subject. Type-checking rules for containers also tell which kind of
container they have recognised. -/
inductive Verdict where
  | fail
  | pass
  | container (kind : ContainerKind)
  deriving DecidableEq, Repr

/-- The verdict of a test. -/
def Verdict.of (passed : Bool) : Verdict := if passed then .pass else .fail

/-- Whether the subject passed. -/
def Verdict.passed : Verdict → Bool
  | .fail => false
  | .pass => true
  | .container _ => true

/-- The kind of container that was recognised. -/
def Verdict.container? : Verdict → Option ContainerKind
  | .container kind => some kind
  | _ => none

end Rulebook
