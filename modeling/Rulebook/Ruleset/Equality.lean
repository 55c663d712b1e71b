import Rulebook.Ruleset.Basic

/-!
# Equality of rulesets

Two rulesets are equal if they have the same rules in the same order, the same flags and fallbacks, and
equal rulesets for children. The order of declared elements, the order of whitelists and blacklists and
the former names of rules do not count.
-/

namespace Rulebook

open Json (Value)

/-- Equality of lists of keys as sets. -/
def sameKeys (a b : List String) : Bool := a.length == b.length && a.all b.contains

/-- Equality of policies. -/
def Membership.same : Membership → Membership → Bool
  | .open, .open => true
  | .exclusive, .exclusive => true
  | .whitelist a, .whitelist b => sameKeys a b
  | .blacklist a, .blacklist b => sameKeys a b
  | _, _ => false

/-- Equality of lists of rules, rule by rule. -/
def sameRules : List Rule → List Rule → Bool
  | [], [] => true
  | a :: as, b :: bs => a.same b && sameRules as bs
  | _, _ => false

/-- Equality of optional lists of values. -/
def sameValues : Option (List Value) → Option (List Value) → Bool
  | none, none => true
  | some a, some b => Value.sameItems a b
  | _, _ => false

mutual

/-- Equality of rulesets. -/
def Ruleset.same : Ruleset → Ruleset → Bool
  | ⟨types, patterns, optional, nullable, emptiness, enum, alternative, table, items⟩, other =>
    sameRules types other.typeRules && sameRules patterns other.patternRules
      && optional == other.optional && nullable == other.nullable
      && emptiness == other.emptiness && sameValues enum other.alternativeEnum
      && (match alternative, other.alternativeRuleSet with
        | none, none => true
        | some a, some b => a.same b
        | _, _ => false)
      && (match table, other.tableElements with
        | none, none => true
        | some ⟨elements, membership⟩, some t =>
          elements.length == t.elements.length && Ruleset.boundIn elements t.elements
            && membership.same t.membership
        | _, _ => false)
      && (match items, other.listItems with
        | none, none => true
        | some ⟨least, most, rules⟩, some l =>
          least == l.minOccur && most == l.maxOccur && rules.same l.itemRules
        | _, _ => false)

/-- Whether every declared element is declared by the other table too. -/
def Ruleset.boundIn : List (String × Ruleset) → List (String × Ruleset) → Bool
  | [], _ => true
  | (key, a) :: rest, other =>
    (match Association.lookup key other with
      | some b => a.same b
      | none => false) && Ruleset.boundIn rest other

end

end Rulebook
