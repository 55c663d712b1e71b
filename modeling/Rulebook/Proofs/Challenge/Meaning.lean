import Rulebook.Challenge.Visit
import Rulebook.Proofs.Ruleset.Parts

/-!
# The meaning of a ruleset

Which subjects a ruleset accepts, said without a walk: by recursion on the ruleset, with no order
among rules, members and items, and without early ends, records and errors.
-/

namespace Rulebook

open Json (Value)

/-- Whether a value is an array or an object. -/
def Json.Value.isContainer : Value → Bool
  | .array _ => true
  | .object _ => true
  | _ => false

/-- A subject passes a type-checking rule. -/
def Provider.PassesType (p : Provider) (subject : Value) (r : Rule) : Prop :=
  ∃ verdict, p.check r.name subject r.arguments.values = .ok verdict ∧ verdict.passed = true

/-- A subject passes a pattern rule. An enumeration has to list it, value and type. -/
def Provider.PassesPattern (p : Provider) (subject : Value) (r : Rule) : Prop :=
  match r.kind with
  | .enumeration => p.isMember subject r.arguments.values = true
  | _ => p.PassesType subject r

namespace Ruleset

variable (p : Provider) (r : Ruleset) (subject : Value)

/-- A subject is let pass because it is empty. -/
def PassesEmpty : Prop :=
  (∀ t ∈ r.typeRules, p.PassesType subject t) ∧
    r.emptiness = some .empty ∧ p.isEmpty subject = true

/-- A subject passes the rules for itself. -/
def PassesRules : Prop :=
  (∀ t ∈ r.typeRules, p.PassesType subject t) ∧
    ¬(r.emptiness = some .nonEmpty ∧ p.isEmpty subject = true) ∧
    ∀ q ∈ r.patternRules, p.PassesPattern subject q

/-- A subject is one of the values that rescue it. -/
def ListsAlternative : Prop :=
  ∃ values, r.alternativeEnum = some values ∧ p.isMember subject values = true

/-- The children of a subject meet what is declared for them, of which there may be nothing. A table
and a list that are both declared are alternatives. -/
def AcceptsChildren (table items : Prop) : Prop :=
  r.hasChildren = false ∨ (subject.isContainer = true ∧ (table ∨ items))

/-- A ruleset accepts a subject, given what the rulesets inside it accept: whether the fallback
accepts the subject, and whether the table and the list accept its children. -/
def AcceptsNode (alternative table items : Prop) : Prop :=
  if subject.isNull then r.nullable = true ∨ alternative
  else
    r.PassesEmpty p subject ∨
    (r.PassesRules p subject ∧ r.AcceptsChildren subject table items) ∨
    (¬r.PassesEmpty p subject ∧ ¬r.PassesRules p subject ∧
      (r.ListsAlternative p subject ∨
        (alternative ∧ r.AcceptsChildren subject table items)))

end Ruleset

/-- A table accepts the children of a subject: each passes what is declared for its key, or has a
key that is admitted, and no key is missing that must not be. -/
def TableAccepts (subject : Value) (membership : Membership) (elements : List (String × Ruleset))
    (declared : String → Option (Value → Prop)) : Prop :=
  (∀ child ∈ children subject,
    match declared child.1 with
    | some accepts => accepts child.2
    | none => membership.admits child.1 = true) ∧
  ∀ e ∈ elements, e.2.optional = true ∨ e.1 ∈ Association.keys (children subject)

/-- A list accepts the items of a subject: each passes what is declared for items, and their number
lies within the bounds. -/
def ItemsAccept (subject : Value) (least : Nat) (most : Option Nat) (accepts : Value → Prop) :
    Prop :=
  (∀ child ∈ children subject, accepts child.2) ∧
  least ≤ (children subject).length ∧
  ∀ bound, most = some bound → (children subject).length ≤ bound

mutual

/-- A ruleset accepts a subject. -/
def Ruleset.Accepts (p : Provider) (r : Ruleset) (subject : Value) : Prop :=
  match r with
  | ⟨types, patterns, optional, nullable, emptiness, enum, alternative, table, items⟩ =>
    Ruleset.AcceptsNode p
      ⟨types, patterns, optional, nullable, emptiness, enum, alternative, table, items⟩ subject
      (match alternative with
        | some a => a.Accepts p subject
        | none => False)
      (match table with
        | some ⟨elements, membership⟩ =>
          TableAccepts subject membership elements (Ruleset.acceptsFor p elements)
        | none => False)
      (match items with
        | some ⟨least, most, rules⟩ => ItemsAccept subject least most (rules.Accepts p)
        | none => False)

/-- What is declared for a key accepts a value. -/
def Ruleset.acceptsFor (p : Provider) (elements : List (String × Ruleset)) (key : String) :
    Option (Value → Prop) :=
  match elements with
  | [] => none
  | (k, r) :: rest => if k = key then some (r.Accepts p) else Ruleset.acceptsFor p rest key

end

/-- What is declared for a key accepts what the ruleset that is declared for it accepts. -/
theorem Ruleset.acceptsFor_eq (p : Provider) (elements : List (String × Ruleset))
    (key : String) :
    Ruleset.acceptsFor p elements key =
      (Association.lookup key elements).map fun q => q.Accepts p := by
  induction elements with
  | nil => simp [Ruleset.acceptsFor, Association.lookup]
  | cons e rest ih =>
    obtain ⟨k, q⟩ := e
    by_cases hk : k = key
    · simp [Ruleset.acceptsFor, Association.lookup, hk]
    · simp [Ruleset.acceptsFor, Association.lookup, hk, ih]

namespace Ruleset

variable (p : Provider) (r : Ruleset) (subject : Value)

/-- A ruleset has a fallback that accepts a subject. -/
def AcceptsAlternative : Prop := ∃ a, r.alternativeRuleSet = some a ∧ a.Accepts p subject

/-- A ruleset has a table that accepts the children of a subject. -/
def AcceptsTable : Prop :=
  ∃ t, r.tableElements = some t ∧
    TableAccepts subject t.membership t.elements
      fun key => (Association.lookup key t.elements).map fun q => q.Accepts p

/-- A ruleset has a list that accepts the items of a subject. -/
def AcceptsItems : Prop :=
  ∃ l, r.listItems = some l ∧
    ItemsAccept subject l.minOccur l.maxOccur (l.itemRules.Accepts p)

/-- The meaning of a ruleset, from the meanings of its parts. -/
theorem accepts_iff :
    r.Accepts p subject ↔
      r.AcceptsNode p subject (r.AcceptsAlternative p subject) (r.AcceptsTable p subject)
        (r.AcceptsItems p subject) := by
  unfold AcceptsAlternative AcceptsTable AcceptsItems
  obtain ⟨types, patterns, optional, nullable, emptiness, enum, alternative, table, items⟩ := r
  rw [Ruleset.Accepts.eq_def]
  cases alternative <;> cases table <;> cases items <;> simp [funext (acceptsFor_eq p _)]

end Ruleset

end Rulebook
