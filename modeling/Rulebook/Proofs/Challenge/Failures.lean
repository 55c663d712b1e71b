import Rulebook.Challenge.Visit
import Rulebook.Proofs.Ruleset.Parts

/-!
# The failures of a subject

All that is wrong with a subject, as a list that is computed from the ruleset and the subject alone:
there is no record that is added to and cut back, no early end, and no count that is carried along.
A subject passes where the list is empty.
-/

namespace Rulebook

open Json (Value)

/-! ## Main rules -/

/-- Whether a subject passes a rule that the provider runs. A rule that cannot be run is not passed. -/
def Provider.passed (p : Provider) (subject : Value) (q : Rule) : Bool :=
  match p.check q.name subject q.arguments.values with
  | .ok verdict => verdict.passed
  | .error _ => false

/-- Whether a subject passes a pattern rule. -/
def Provider.passedPattern (p : Provider) (subject : Value) (q : Rule) : Bool :=
  match q.kind with
  | .enumeration => p.isMember subject q.arguments.values
  | _ => p.passed subject q

/-- The kind of container that a rule tells. -/
def Provider.told? (p : Provider) (subject : Value) (q : Rule) : Option ContainerKind :=
  match p.check q.name subject q.arguments.values with
  | .ok verdict => verdict.container?
  | .error _ => none

/-- The case of the pattern rules that a subject is in: the first of them that it does not pass, if
there is one. -/
def Provider.patternOutcome (p : Provider) (subject : Value) (told : Option ContainerKind)
    (rules : List Rule) : MainVerdict :=
  match rules.find? fun q => !p.passedPattern subject q with
  | some q => .failed (.rule (.declared q))
  | none => .passed told

/-- The case of the main rules that a subject is in: the first of them that it does not pass, be it a
type-checking rule, the flag against empty subjects or a pattern rule, if there is one. -/
def Ruleset.mainOutcome (p : Provider) (r : Ruleset) (subject : Value) : MainVerdict :=
  if subject.isNull then if r.nullable then .settled else .failed .null
  else
    match r.typeRules.find? fun q => !p.passed subject q with
    | some q => .failed (.rule (.declared q))
    | none =>
      if p.isEmpty subject && r.emptiness == some .empty then .settled
      else if p.isEmpty subject && r.emptiness == some .nonEmpty then .failed (.rule .nonEmpty)
      else p.patternOutcome subject (r.typeRules.findSome? (p.told? subject)) r.patternRules

/-! ## Children -/

/-- What a ruleset inside objects to in a subject at a place. -/
abbrev Objections := Value → Location → List Failure

section Steps

variable (p : Provider) (subject : Value) (place : Location)

/-- The failure of a subject at a place. -/
def failureOf (kind : FailureKind) : Failure := ⟨place, kind, Preview.of subject⟩

/-- What is wrong with a child at a table: what is declared for its key says it, or its key is not
admitted. -/
def memberFailures (kind : ContainerKind) (membership : Membership)
    (declared : String → Option Objections) (child : String × Value) : List Failure :=
  match declared child.1 with
  | some objections => objections child.2 (place.child kind child.1)
  | none =>
    if membership.admits child.1 then []
    else [failureOf subject place (.undeclaredKey child.1 membership.name)]

/-- What is wrong with the children of a subject at a table: child by child, and then a failure for
each key that is missing. -/
def tableFailures (membership : Membership) (elements : List (String × Ruleset))
    (declared : String → Option Objections) (kind : ContainerKind) : List Failure :=
  (children subject).flatMap (memberFailures subject place kind membership declared)
    ++ (missingKeys subject elements).map fun key => failureOf subject place (.missingKey key)

/-- What is wrong with an item that has so many items in front of it. The first one above the bound
is where there are too many. -/
def numberedItemFailures (most : Option Nat) (objections : Objections) (kind : ContainerKind)
    (item : (String × Value) × Nat) : List Failure :=
  (if most = some item.2 then [failureOf subject place (.tooMany item.2)] else [])
    ++ objections item.1.2 (place.child kind item.1.1)

/-- What is wrong with the items of a subject: item by item, and then that there are too few. -/
def itemFailures (least : Nat) (most : Option Nat) (objections : Objections) (kind : ContainerKind) :
    List Failure :=
  (children subject).zipIdx.flatMap (numberedItemFailures subject place most objections kind)
    ++ (if (children subject).length < least then
      [failureOf subject place (.tooFew least (children subject).length)]
    else [])

/-- What is wrong at a table together with a list that stands in for it: nothing if one of the two
finds nothing wrong. -/
def bothFailures (table items : List Failure) : List Failure :=
  if table.isEmpty || items.isEmpty then [] else table ++ items

/-- What is wrong with the children of a subject. -/
def childFailures (told : Option ContainerKind) (table items : Option (ContainerKind → List Failure)) :
    List Failure :=
  if table.isNone && items.isNone then []
  else
    match told <|> p.containerKind subject with
    | none => [failureOf subject place .notLoopable]
    | some kind =>
      match table, items with
      | some t, some l => bothFailures (t kind) (l kind)
      | some t, none => t kind
      | none, some l => l kind
      | none, none => []

/-- What is wrong with a subject, given what is wrong with it below the fallback, the table and the
list of a ruleset. Of what the fallback finds wrong, it only counts whether it is nothing. -/
def nodeFailures (r : Ruleset) (alternative : Option (List Failure))
    (table items : Option (ContainerKind → List Failure)) : List Failure :=
  match r.mainOutcome p subject with
  | .settled => []
  | .passed told => childFailures p subject place told table items
  | .failed shortfall =>
    if rescuedByValue p subject r.alternativeEnum then []
    else if alternative.any List.isEmpty then
      if subject.isNull then [] else childFailures p subject place none table items
    else [failureOf subject place (shortfall.failure r.fallbacks)]

end Steps

/-! ## Rulesets -/

mutual

/-- What is wrong with a subject at a place. -/
def Ruleset.failures (p : Provider) (r : Ruleset) (subject : Value) (place : Location) :
    List Failure :=
  match r with
  | ⟨types, patterns, optional, nullable, emptiness, enum, alternative, table, items⟩ =>
    nodeFailures p subject place
      ⟨types, patterns, optional, nullable, emptiness, enum, alternative, table, items⟩
      (match alternative with
        | some a => some (a.failures p subject place)
        | none => none)
      (match table with
        | some ⟨elements, membership⟩ =>
          some (tableFailures subject place membership elements
            (Ruleset.failuresFor p elements))
        | none => none)
      (match items with
        | some ⟨least, most, rules⟩ =>
          some (itemFailures subject place least most (rules.failures p))
        | none => none)

/-- What is wrong with a value below what is declared for a key. -/
def Ruleset.failuresFor (p : Provider) (elements : List (String × Ruleset)) (key : String) :
    Option Objections :=
  match elements with
  | [] => none
  | (k, r) :: rest => if k = key then some (r.failures p) else Ruleset.failuresFor p rest key

end

/-- What is declared for a key finds wrong what the ruleset that is declared for it does. -/
theorem Ruleset.failuresFor_eq (p : Provider) (elements : List (String × Ruleset))
    (key : String) :
    Ruleset.failuresFor p elements key =
      (Association.lookup key elements).map fun q => q.failures p := by
  induction elements with
  | nil => simp [Ruleset.failuresFor, Association.lookup]
  | cons e rest ih =>
    obtain ⟨k, q⟩ := e
    by_cases hk : k = key
    · simp [Ruleset.failuresFor, Association.lookup, hk]
    · simp [Ruleset.failuresFor, Association.lookup, hk, ih]

/-- What is wrong with a subject, from what is wrong with it below the parts of a ruleset. -/
theorem Ruleset.failures_eq (p : Provider) (r : Ruleset) (subject : Value) (place : Location) :
    r.failures p subject place =
      nodeFailures p subject place r
        (r.alternativeRuleSet.map fun a => a.failures p subject place)
        (r.tableElements.map fun t =>
          tableFailures subject place t.membership t.elements
            fun key => (Association.lookup key t.elements).map fun q => q.failures p)
        (r.listItems.map fun l =>
          itemFailures subject place l.minOccur l.maxOccur (l.itemRules.failures p)) := by
  obtain ⟨types, patterns, optional, nullable, emptiness, enum, alternative, table, items⟩ := r
  rw [Ruleset.failures.eq_def]
  cases alternative <;> cases table <;> cases items <;> simp [funext (failuresFor_eq p _)]

end Rulebook
