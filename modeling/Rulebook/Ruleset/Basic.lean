import Rulebook.Association
import Rulebook.Ruleset.Rule

/-!
# Rulesets

A ruleset in canonical form: rules in the order in which they are run, flags, fallbacks, and the
rulesets of children.
-/

namespace Rulebook

open Json (Value)

/-- What a ruleset says about empty subjects. -/
inductive Emptiness where
  /-- An empty subject passes without a further look. -/
  | empty
  /-- An empty subject fails. -/
  | nonEmpty
  deriving DecidableEq, Repr

/-- The name of the flag in a description. -/
def Emptiness.name : Emptiness → String
  | .empty => "empty"
  | .nonEmpty => "nonEmpty"

/-- The keys that a table admits besides the declared ones. -/
inductive Membership where
  | open
  | exclusive
  | whitelist (keys : List String)
  | blacklist (keys : List String)
  deriving DecidableEq, Repr

/-- Whether an undeclared key is admitted. -/
def Membership.admits (m : Membership) (key : String) : Bool :=
  match m with
  | .open => true
  | .exclusive => false
  | .whitelist keys => keys.contains key
  | .blacklist keys => !keys.contains key

/-- The name of a policy. -/
def Membership.name : Membership → String
  | .open => "open"
  | .exclusive => "exclusive"
  | .whitelist _ => "whitelist"
  | .blacklist _ => "blacklist"

/-- The policy when a key becomes declared. The lists cover undeclared keys only; an emptied whitelist
admits nothing, and an emptied blacklist everything. -/
def Membership.without (m : Membership) (key : String) : Membership :=
  match m with
  | .whitelist keys =>
    match keys.filter (· != key) with
    | [] => .exclusive
    | rest => .whitelist rest
  | .blacklist keys =>
    match keys.filter (· != key) with
    | [] => .open
    | rest => .blacklist rest
  | m => m

/-- The declared elements of a table, with what is declared for each, and the policy for the rest. -/
structure TableElements (α : Type) where
  /-- The declared keys in the order of their declaration. -/
  elements : List (String × α)
  membership : Membership
  deriving Repr

/-- The bounds on the number of items, and what is declared for each item. -/
structure ListItems (α : Type) where
  minOccur : Nat
  /-- The greatest number of items, if there is a bound. -/
  maxOccur : Option Nat
  itemRules : α
  deriving Repr

/-- A ruleset. -/
structure Ruleset where
  typeRules : List Rule
  patternRules : List Rule
  optional : Bool
  nullable : Bool
  emptiness : Option Emptiness
  /-- Values that rescue a subject, and its children with it. -/
  alternativeEnum : Option (List Value)
  /-- Rules that rescue a subject from failing its main rules. -/
  alternativeRuleSet : Option Ruleset
  tableElements : Option (TableElements Ruleset)
  listItems : Option (ListItems Ruleset)
  deriving Repr

/-- The declared keys. -/
def TableElements.keys {α : Type} (t : TableElements α) : List String :=
  Association.keys t.elements

/-- What is declared for a key. -/
def TableElements.get? {α : Type} (t : TableElements α) (key : String) : Option α :=
  Association.lookup key t.elements

/-- The table with a key declared, or declared anew. -/
def TableElements.withElement {α : Type} (t : TableElements α) (key : String) (a : α) :
    TableElements α :=
  { elements := Association.insert key a t.elements
    membership := t.membership.without key }

/-- The bounds with something else declared for each item. -/
def ListItems.withItemRules {α : Type} (l : ListItems α) (a : α) : ListItems α :=
  { l with itemRules := a }

namespace Ruleset

/-- All rules in the order in which they are run. -/
def rules (r : Ruleset) : List Rule := r.typeRules ++ r.patternRules

/-- Whether a ruleset says something about children. -/
def hasChildren (r : Ruleset) : Bool := r.tableElements.isSome || r.listItems.isSome

/-- The ruleset with other table elements. Whether the subject is a container is asked when it is
challenged, so the rules in front of them need no change. -/
def withTableElements (r : Ruleset) (t : TableElements Ruleset) : Ruleset :=
  { r with tableElements := some t }

/-- The ruleset with other list items. -/
def withListItems (r : Ruleset) (l : ListItems Ruleset) : Ruleset :=
  { r with listItems := some l }

end Ruleset

end Rulebook
