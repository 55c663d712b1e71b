import Rulebook.Description.Fault

/-!
# Rules of a description

How the name of a rule is resolved to what the provider describes, and how its argument becomes a list
of arguments.
-/

namespace Rulebook

open Json (Value)

/-- Former names may lead to former names, but not in more steps than this. -/
def maxRenames : Nat := 8

/-- A description of a rule with the former names that led to it, oldest last. -/
structure Resolved where
  descriptor : Descriptor
  formerNames : List String
  deriving Repr

/-- The name that resolving got stuck at, with the names that led to it, oldest last. -/
structure Unresolved where
  name : String
  formerNames : List String
  deriving DecidableEq, Repr

/-- Follows former names until a name has a description, looking up at most the given number of
names. -/
def Provider.resolveWithin (p : Provider) :
    Nat → String → List String → Except Unresolved Resolved
  | 0, name, former => .error ⟨name, former⟩
  | lookups + 1, name, former =>
    match p.descriptor name with
    | some d => .ok ⟨d, former⟩
    | none =>
      match p.renamed name with
      | some next => p.resolveWithin lookups next (name :: former)
      | none => .error ⟨name, former⟩

/-- Resolves the name of a rule. -/
def Provider.resolve (p : Provider) (name : String) : Except Unresolved Resolved :=
  p.resolveWithin (maxRenames + 1) name []

namespace Resolved

/-- Whether the rule takes so many arguments. -/
def takes (r : Resolved) (given : Nat) : Bool :=
  decide (r.descriptor.required ≤ given) && decide (given ≤ r.descriptor.allowed)

/-- The fault of a wrong number of arguments. -/
def arityFault (r : Resolved) (given : Nat) : DefinitionFault :=
  .arity r.descriptor.name r.formerNames r.descriptor.required r.descriptor.allowed given

/-- The arguments that an entry gives: the value true switches a rule on, a list lists them, and any other
value is the one argument of a rule that takes one. -/
def arguments (r : Resolved) : Value → Except DefinitionFault Arguments
  | .bool true => if r.takes 0 then .ok .flag else .error (r.arityFault 0)
  | .array values =>
    if values.isEmpty && r.descriptor.allowed == 0 then .ok .flag
    else if r.takes values.length then .ok (.list values)
    else .error (r.arityFault values.length)
  | other =>
    if r.descriptor.allowed = 1 then .ok (.list [other])
    else match other with
      | .bool false =>
        if r.descriptor.allowed = 0 then
          .error (.badArgument r.descriptor.name r.formerNames .switchedOff)
        else .error (r.arityFault 1)
      | _ => .error (r.arityFault 1)

/-- Lets the provider look at the arguments. -/
def prepared (p : Provider) (r : Resolved) (arguments : Arguments) :
    Except DefinitionFault Arguments :=
  match p.prepare r.descriptor.name arguments.values with
  | .ok () => .ok arguments
  | .error e => .error (.badArgument r.descriptor.name r.formerNames (.unusable e))

/-- The kind of the rule. -/
def kind (r : Resolved) : RuleKind :=
  if r.descriptor.isTypeChecking then .typeCheck else .pattern

/-- The rule with its arguments. -/
def rule (r : Resolved) (arguments : Arguments) : Rule :=
  ⟨r.descriptor.name, arguments, r.kind, r.formerNames⟩

end Resolved

end Rulebook
