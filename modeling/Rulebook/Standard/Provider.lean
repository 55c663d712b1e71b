import Rulebook.Pattern
import Rulebook.Standard.Check

/-!
# The standard provider

The provider of the standard rules, with the choice of a type-checking rule that guards a tag, and a
check that its tables fit together.
-/

namespace Rulebook

open Json (Value)

namespace StandardRule

/-- The rules that guard tags. -/
def guards : List (TypeTag × StandardRule) :=
  [(.boolean, .boolean), (.integer, .integer), (.float, .float), (.number, .number),
    (.string, .string), (.stringableScalar, .stringableScalar), (.numeric, .numeric),
    (.digital, .digital), (.decimal, .decimal), (.scalar, .scalar), (.container, .loopable),
    (.list, .indexedArray), (.map, .keyedArray)]

/-- The guard of the smaller tag, the first one if both are of one size. -/
def narrower (a b : TypeTag × StandardRule) : TypeTag × StandardRule :=
  if b.1.size < a.1.size then b else a

/-- The rule that guards a tag: the one for the tag itself, else the narrowest that covers it. -/
def guard? (tag : TypeTag) : Option StandardRule :=
  match guards.find? fun entry => entry.1 == tag with
  | some entry => some entry.2
  | none =>
    match guards.filter fun entry => entry.1.contains tag with
    | [] => none
    | first :: rest => some (rest.foldl narrower first).2

end StandardRule

/-- The standard rules as a provider, whose patterns an engine compiles. -/
def Provider.standard [PatternEngine] : Provider where
  descriptor name := (StandardRule.ofName? name).map StandardRule.descriptor
  renamed former := Association.lookup former StandardRule.renames
  typeGuard tag := (StandardRule.guard? tag).map StandardRule.name
  containerGuard := StandardRule.loopable.name
  isEmpty := Standard.isEmpty
  isMember := Value.memberOf
  containerKind := Standard.containerKind
  prepare name args :=
    match StandardRule.ofName? name with
    | some r => r.prepare args
    | none => .ok ()
  check name v args :=
    match StandardRule.ofName? name with
    | some r => r.check v args
    | none => .error (.unknownRule name)

/-! ## Fit of the tables -/

/-- What may be wrong with the tables of the standard rules. -/
inductive IntegrityFault where
  | sharedTag (first second : String) (tag : TypeTag)
  | sharedName (name : String)
  | otherRule (name : String)
  | invertedArity (name : String)
  | formerNameInUse (former : String)
  | danglingRename (former target : String)
  | unguarded (name : String) (tag : TypeTag)
  | unfitGuard (name : String)
  deriving Repr

/-- The report of a misfit. -/
def IntegrityFault.message : IntegrityFault → String
  | .sharedTag first second tag => s!"type tags {first} and {second} share the value {tag.bitText}"
  | .sharedName name => "rule name " ++ Text.ticked name ++ " is declared twice"
  | .otherRule name => "rule " ++ Text.ticked name ++ " resolves to a different rule by name"
  | .invertedArity name =>
    "rule " ++ Text.ticked name ++ " allows fewer parameters than it requires"
  | .formerNameInUse former =>
    "legacy name " ++ Text.ticked former ++ " collides with a current rule name"
  | .danglingRename former target =>
    "legacy name " ++ Text.ticked former ++ " points at unknown rule " ++ Text.ticked target
  | .unguarded name tag =>
    "pattern rule " ++ Text.ticked name ++ s!" ({tag.text}) has no type guard"
  | .unfitGuard name =>
    "type guard " ++ Text.ticked name ++ " is not a zero-argument type-checking rule"

namespace Standard

variable [PatternEngine]

/-- Named tags that share a value. -/
def sharedTags : List (String × TypeTag) → List IntegrityFault
  | [] => []
  | (name, tag) :: rest =>
    (rest.filterMap fun (other, t) =>
      if t = tag then some (.sharedTag name other tag) else none) ++ sharedTags rest

/-- Misfits of a rule's own description, given the rules in front of it. -/
def descriptorFaults (before : List StandardRule) : List StandardRule → List IntegrityFault
  | [] => []
  | r :: rest =>
    (if before.any fun other => other.name == r.name then [.sharedName r.name]
      else if StandardRule.ofName? r.name != some r then [.otherRule r.name]
      else if r.descriptor.allowed < r.descriptor.required then [.invertedArity r.name]
      else []) ++ descriptorFaults (r :: before) rest

/-- Misfits of the former names. -/
def renameFaults : List IntegrityFault :=
  StandardRule.renames.filterMap fun (former, target) =>
    if (StandardRule.ofName? former).isSome then some (.formerNameInUse former)
    else if (StandardRule.ofName? target).isNone then some (.danglingRename former target)
    else none

/-- Whether a rule can guard others. -/
def fitsAsGuard (name : String) : Bool :=
  (Provider.standard.descriptor name).any fun d => d.isTypeChecking && d.required == 0

/-- Misfits of the guards of pattern rules, and of the guard of containers. -/
def guardFaults : List IntegrityFault :=
  (StandardRule.all.filterMap fun r =>
    if r.descriptor.isTypeChecking then none
    else match Provider.standard.typeGuard r.descriptor.semanticType with
      | none => some (.unguarded r.name r.descriptor.semanticType)
      | some guard => if fitsAsGuard guard then none else some (.unfitGuard guard))
    ++ (if fitsAsGuard Provider.standard.containerGuard then []
      else [.unfitGuard Provider.standard.containerGuard])

/-- The first misfit of the tables, if there is one. -/
def integrity : Except IntegrityFault Unit :=
  match sharedTags TypeTag.named ++ descriptorFaults [] StandardRule.all ++ renameFaults
      ++ guardFaults with
  | [] => .ok ()
  | fault :: _ => .error fault

end Standard

end Rulebook
