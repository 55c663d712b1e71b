import Rulebook.Ruleset.Basic

/-!
# The canonical description of a ruleset

Every ruleset has a description that reads back as an equal ruleset: type-checking rules first, then
flags, pattern rules, fallbacks and children.
-/

namespace Rulebook

open Json (Value Members)

/-- The members of a description that stand for rules. -/
def ruleMembers (rules : List Rule) : Members :=
  rules.map fun r => (r.name, r.arguments.toJson)

/-- The member of a flag that is set. -/
def flagMember (name : String) (value : Bool) : Members :=
  if value then [(name, .bool true)] else []

/-- The member of a list of keys. -/
def keyMember (name : String) (keys : List String) : Members :=
  [(name, .array (keys.map Value.string))]

/-- The member of a policy. -/
def Membership.members : Membership → Members
  | .open => []
  | .exclusive => flagMember "exclusive" true
  | .whitelist keys => keyMember "whitelist" keys
  | .blacklist keys => keyMember "blacklist" keys

/-- The member of a bound on the number of items; zero is no bound. -/
def occurrenceMember (name : String) (n : Nat) : Members :=
  if n = 0 then [] else [(name, .number (.int n))]

/-- Binds the members of a list, one after the other. -/
def bindAll (members : Members) (more : Members) : Members :=
  more.foldl (fun ms m => Association.insert m.1 m.2 ms) members

mutual

/-- The canonical description of a ruleset. -/
def Ruleset.toJson : Ruleset → Value
  | ⟨types, patterns, optional, nullable, emptiness, enum, alternative, table, items⟩ =>
    .object (bindAll []
      (ruleMembers types
        ++ flagMember "optional" optional
        ++ flagMember "nullable" nullable
        ++ (match emptiness with
          | none => []
          | some e => flagMember e.name true)
        ++ ruleMembers patterns
        ++ (match enum with
          | none => []
          | some values => [("alternativeEnum", .array values)])
        ++ (match alternative with
          | none => []
          | some a => [("alternativeRuleSet", a.toJson)])
        ++ (match table with
          | none => []
          | some ⟨elements, membership⟩ =>
            [("tableElements",
              .object (("rulesByElements", .object (Ruleset.elementMembers elements))
                :: membership.members))])
        ++ (match items with
          | none => []
          | some ⟨least, most, rules⟩ =>
            [("listItems",
              .object (("itemRules", rules.toJson)
                :: (occurrenceMember "minOccur" least
                  ++ occurrenceMember "maxOccur" (most.getD 0))))])))

/-- The members of declared elements. -/
def Ruleset.elementMembers : List (String × Ruleset) → Members
  | [] => []
  | (key, r) :: rest => (key, r.toJson) :: Ruleset.elementMembers rest

end

end Rulebook
