import Rulebook.Ruleset.Basic

/-!
# Parts of a ruleset

The rulesets directly inside a ruleset are its parts: its fallback, what it declares for the
elements of a table, and what it declares for the items of a list. A property of all rulesets is
shown by induction on their parts, and may be asked of all rulesets in one.
-/

namespace Rulebook

/-- The rulesets directly inside a ruleset. -/
def Ruleset.parts (r : Ruleset) : List Ruleset :=
  r.alternativeRuleSet.toList
    ++ (r.tableElements.toList.flatMap fun t => t.elements.map Prod.snd)
    ++ r.listItems.toList.map ListItems.itemRules

namespace Ruleset

variable {r q : Ruleset}

/-- The fallback of a ruleset is a part of it. -/
theorem mem_parts_of_alternative (h : r.alternativeRuleSet = some q) : q ∈ r.parts := by
  simp [parts, h]

/-- What a ruleset declares for an element is a part of it. -/
theorem mem_parts_of_element {t : TableElements Ruleset} {e : String × Ruleset}
    (h : r.tableElements = some t) (he : e ∈ t.elements) : e.2 ∈ r.parts := by
  simp only [parts, h, List.mem_append, Option.toList_some, List.flatMap_singleton]
  exact Or.inl (Or.inr (List.mem_map_of_mem he))

/-- What a ruleset declares for its items is a part of it. -/
theorem mem_parts_of_items {l : ListItems Ruleset} (h : r.listItems = some l) :
    l.itemRules ∈ r.parts := by
  simp [parts, h]

/-- A property of the fallback, of every element and of the items is a property of every part. -/
theorem forall_mem_parts {motive : Ruleset → Prop}
    (halternative : ∀ a, r.alternativeRuleSet = some a → motive a)
    (helement : ∀ t, r.tableElements = some t → ∀ e ∈ t.elements, motive e.2)
    (hitems : ∀ l, r.listItems = some l → motive l.itemRules) :
    ∀ q ∈ r.parts, motive q := by
  intro q hq
  simp only [parts, List.mem_append, List.mem_map, List.mem_flatMap, Option.mem_toList] at hq
  rcases hq with (ha | ⟨t, ht, e, he, rfl⟩) | ⟨l, hl, rfl⟩
  · exact halternative q ha
  · exact helement t ht e he
  · exact hitems l hl

/-- With another table, parts have a property that they had before and that the elements have. -/
theorem forall_mem_parts_withTableElements {motive : Ruleset → Prop} {t : TableElements Ruleset}
    (hparts : ∀ q ∈ r.parts, motive q) (helements : ∀ e ∈ t.elements, motive e.2) :
    ∀ q ∈ (r.withTableElements t).parts, motive q := by
  refine forall_mem_parts ?_ ?_ ?_
  · exact fun a ha => hparts a (mem_parts_of_alternative ha)
  · rintro u hu
    rwa [← Option.some.inj hu]
  · exact fun l hl => hparts _ (mem_parts_of_items hl)

/-- With another list, parts have a property that they had before and that the items have. -/
theorem forall_mem_parts_withListItems {motive : Ruleset → Prop} {l : ListItems Ruleset}
    (hparts : ∀ q ∈ r.parts, motive q) (hitems : motive l.itemRules) :
    ∀ q ∈ (r.withListItems l).parts, motive q := by
  refine forall_mem_parts ?_ ?_ ?_
  · exact fun a ha => hparts a (mem_parts_of_alternative ha)
  · exact fun t ht e he => hparts _ (mem_parts_of_element ht he)
  · rintro m hm
    rwa [← Option.some.inj hm]

/-- A part of a ruleset is smaller than the ruleset. -/
theorem sizeOf_lt_of_mem_parts (hq : q ∈ r.parts) : sizeOf q < sizeOf r := by
  revert q
  obtain ⟨types, patterns, optional, nullable, emptiness, enum, alternative, table, items⟩ := r
  apply forall_mem_parts
  · rintro a rfl
    simp only [Ruleset.mk.sizeOf_spec, Option.some.sizeOf_spec]
    omega
  · rintro ⟨elements, membership⟩ rfl ⟨key, q⟩ he
    have hmem := List.sizeOf_lt_of_mem he
    simp only [Prod.mk.sizeOf_spec] at hmem
    simp only [Ruleset.mk.sizeOf_spec, Option.some.sizeOf_spec, TableElements.mk.sizeOf_spec]
    omega
  · rintro ⟨least, most, q⟩ rfl
    simp only [Ruleset.mk.sizeOf_spec, Option.some.sizeOf_spec, ListItems.mk.sizeOf_spec]
    omega

/-- Induction on the parts: what every ruleset inherits from its parts holds of all rulesets. -/
@[elab_as_elim, induction_eliminator]
theorem induction {motive : Ruleset → Prop}
    (ruleset : ∀ r, (∀ q ∈ r.parts, motive q) → motive r) (r : Ruleset) : motive r :=
  ruleset r fun q _ => induction ruleset q
termination_by sizeOf r
decreasing_by exact sizeOf_lt_of_mem_parts ‹_›

/-- A property holds of a ruleset and of all rulesets in it. -/
inductive Everywhere (P : Ruleset → Prop) : Ruleset → Prop
  | node {r : Ruleset} (here : P r) (parts : ∀ q ∈ r.parts, Everywhere P q) : Everywhere P r

namespace Everywhere

variable {P Q : Ruleset → Prop}

/-- What holds everywhere in a ruleset holds of it. -/
theorem here (h : Everywhere P r) : P r := by
  cases h with
  | node here _ => exact here

/-- What holds everywhere in a ruleset holds everywhere in its parts. -/
theorem parts (h : Everywhere P r) : ∀ q ∈ r.parts, Everywhere P q := by
  cases h with
  | node _ parts => exact parts

/-- What follows from a property that holds everywhere holds everywhere. -/
theorem imp (h : Everywhere P r) (hPQ : ∀ q, P q → Q q) : Everywhere Q r := by
  induction h with
  | node here _ ih => exact .node (hPQ _ here) ih

/-- Two properties that hold everywhere hold together everywhere. -/
theorem and (hP : Everywhere P r) (hQ : Everywhere Q r) : Everywhere (fun q => P q ∧ Q q) r := by
  induction hP with
  | node here _ ih => exact .node ⟨here, hQ.here⟩ fun q hq => ih q hq (hQ.parts q hq)

/-- What holds of all rulesets holds everywhere in each. -/
theorem of_forall (h : ∀ q, P q) (r : Ruleset) : Everywhere P r := by
  induction r with
  | ruleset r ih => exact .node (h r) ih

end Everywhere

end Ruleset

end Rulebook
