import Rulebook.Proofs.Description.Drafting

/-!
# The nesting of rulesets that are read

Every ruleset inside one that is read has been read itself, with one level less to go. That holds of
every provider, whether or not its tables fit together, and of every description.
-/

namespace Rulebook

open Json (Value)

/-- Everything that a reader reads has a property. -/
def ReadsOnly (Q : Ruleset → Prop) (read : RulesetReader) : Prop :=
  ∀ {v : Value} {place : Location} {r : Ruleset}, read v place = .ok r → Q r

section Children

variable {Q : Ruleset → Prop} {read : RulesetReader} (hread : ReadsOnly Q read)
  {place : Location} {v : Value}

include hread

/-- The elements of a table that is read have been read. -/
theorem TableElements.forall_of_ofDescription {t : TableElements Ruleset}
    (h : TableElements.ofDescription read place v = .ok t) : ∀ e ∈ t.elements, Q e.2 := by
  unfold TableElements.ofDescription at h
  split at h
  · simp only [bind_ok_iff, located_ok_iff] at h
    obtain ⟨declared, _, h⟩ := h
    split at h
    · cases h
    · simp only [bind_ok_iff] at h
      obtain ⟨elements, helements, _, _, h⟩ := h
      obtain rfl := Except.ok.inj h
      intro e he
      obtain ⟨w, _, hw⟩ := (readElements_spec helements).2 e he
      exact hread hw
  · cases h

/-- What a list that is read declares for its items has been read. -/
theorem ListItems.itemRules_of_ofDescription {l : ListItems Ruleset}
    (h : ListItems.ofDescription read place v = .ok l) : Q l.itemRules := by
  simp only [ListItems.ofDescription, bind_ok_iff] at h
  obtain ⟨_, _, rules, hrules, h⟩ := h
  obtain rfl := Except.ok.inj h
  exact hread hrules

end Children

namespace Draft

variable {p : Provider} {Q : Ruleset → Prop} {read : RulesetReader} {place : Location}
  {draft next : Draft}

/-- A rule is no part. -/
theorem parts_of_addRule {name : String} {v : Value} (hadd : draft.addRule p name v = .ok next) :
    next.ruleset.parts = draft.ruleset.parts := by
  unfold addRule at hadd
  split at hadd
  · cases hadd
  · simp only [bind_ok_iff, take_ok_iff] at hadd
    obtain ⟨_, ⟨_, rfl⟩, arguments, _, prepared, _, hadd⟩ := hadd
    split at hadd <;>
      · obtain rfl := Except.ok.inj hadd
        rfl

variable (hread : ReadsOnly Q read) (hparts : ∀ q ∈ draft.ruleset.parts, Q q)

include hread hparts

/-- A core entry adds only parts that have been read. -/
theorem forall_parts_of_addCore {key : CoreKey} {v : Value}
    (hadd : draft.addCore read place key v = .ok next) : ∀ q ∈ next.ruleset.parts, Q q := by
  cases key with
  | optional | nullable | empty | nonEmpty =>
    simp only [addCore, bind_ok_iff] at hadd
    obtain ⟨_, _, hadd⟩ := hadd
    obtain rfl := Except.ok.inj hadd
    exact hparts
  | enum | alternativeEnum =>
    simp only [addCore, located_ok_iff, addEnum, addAlternativeEnum, bind_ok_iff] at hadd
    obtain ⟨_, _, hadd⟩ := hadd
    obtain rfl := Except.ok.inj hadd
    exact hparts
  | alternativeRuleSet =>
    simp only [addCore, bind_ok_iff, located_ok_iff, addAlternative] at hadd
    obtain ⟨a, ha, hadd⟩ := hadd
    split at hadd
    · cases hadd
    · obtain rfl := Except.ok.inj hadd
      refine Ruleset.forall_mem_parts ?_ ?_ ?_
      · rintro b hb
        obtain rfl := Option.some.inj hb
        exact hread ha
      · exact fun t ht e he => hparts _ (Ruleset.mem_parts_of_element ht he)
      · exact fun l hl => hparts _ (Ruleset.mem_parts_of_items hl)
  | tableElements =>
    simp only [addCore, bind_ok_iff] at hadd
    obtain ⟨t, ht, hadd⟩ := hadd
    obtain rfl := Except.ok.inj hadd
    exact Ruleset.forall_mem_parts_withTableElements (r := draft.ruleset) hparts
      (TableElements.forall_of_ofDescription hread ht)
  | listItems =>
    simp only [addCore, bind_ok_iff] at hadd
    obtain ⟨l, hl, hadd⟩ := hadd
    obtain rfl := Except.ok.inj hadd
    exact Ruleset.forall_mem_parts_withListItems (r := draft.ruleset) hparts
      (ListItems.itemRules_of_ofDescription hread hl)

/-- An entry adds only parts that have been read. -/
theorem forall_parts_of_add {entry : Entry} (hadd : draft.add p read place entry = .ok next) :
    ∀ q ∈ next.ruleset.parts, Q q := by
  cases entry with
  | core key v =>
    simp only [add, bind_ok_iff, located_ok_iff, take_ok_iff] at hadd
    obtain ⟨_, ⟨_, rfl⟩, hadd⟩ := hadd
    have hnamed : ∀ q ∈ { draft with names := key.name :: draft.names }.ruleset.parts, Q q :=
      hparts
    exact forall_parts_of_addCore hread hnamed hadd
  | rule name v =>
    rw [parts_of_addRule (located_ok_iff.mp hadd)]
    exact hparts

/-- Entries add only parts that have been read. -/
theorem forall_parts_of_addAll {entries : List Entry}
    (hadd : draft.addAll p read place entries = .ok next) : ∀ q ∈ next.ruleset.parts, Q q :=
  addAll_induction (fun _ _ _ _ hparts => forall_parts_of_add hread hparts) hparts hadd

end Draft

/-- The parts of a ruleset that is read have been read with one level less. -/
theorem Ruleset.parts_of_ofDescriptionWithin {p : Provider} {levels : Nat} {description : Value}
    {place : Location} {r : Ruleset}
    (h : ofDescriptionWithin p (levels + 1) description place = .ok r) :
    ∀ q ∈ r.parts, ∃ v place, ofDescriptionWithin p levels v place = .ok q := by
  simp only [ofDescriptionWithin, bind_ok_iff, located_ok_iff] at h
  obtain ⟨entries, _, draft, hdraft, hfinish⟩ := h
  have hread : ReadsOnly (fun q => ∃ v place, ofDescriptionWithin p levels v place = .ok q)
      (ofDescriptionWithin p levels) := fun hq => ⟨_, _, hq⟩
  have hblank : ∀ q ∈ Draft.blank.ruleset.parts,
      ∃ v place, ofDescriptionWithin p levels v place = .ok q := by
    simp [Draft.blank, Draft.ruleset, parts]
  have hparts := Draft.forall_parts_of_addAll hread hblank hdraft
  simp only [Draft.finish, bind_ok_iff] at hfinish
  obtain ⟨_, _, _, _, hfinish⟩ := hfinish
  obtain rfl := Except.ok.inj hfinish
  exact hparts

/-- What drafts keep while entries are added holds of their rulesets, and with them of all rulesets in one
that is read. -/
theorem Ruleset.everywhere_of_ofDescriptionWithin {p : Provider} {I : Draft → Prop}
    {P : Ruleset → Prop} (hblank : I .blank)
    (hadd : ∀ {read : RulesetReader} {place : Location} {draft next : Draft} {entry : Entry},
      I draft → draft.add p read place entry = .ok next → I next)
    (hfinish : ∀ {draft : Draft} {r : Ruleset}, I draft → draft.finish p = .ok r → P r)
    {levels : Nat} {description : Value} {place : Location} {r : Ruleset}
    (h : ofDescriptionWithin p levels description place = .ok r) : r.Everywhere P := by
  induction levels generalizing description place r with
  | zero => cases h
  | succ levels ih =>
    refine .node ?_ fun q hq => ?_
    · simp only [ofDescriptionWithin, bind_ok_iff, located_ok_iff] at h
      obtain ⟨entries, _, draft, hdraft, hdone⟩ := h
      exact hfinish (Draft.addAll_induction (fun _ _ _ _ => hadd) hblank hdraft) hdone
    · obtain ⟨v, place, hread⟩ := parts_of_ofDescriptionWithin h q hq
      exact ih hread

end Rulebook
