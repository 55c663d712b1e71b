import Rulebook.Proofs.Description.Nesting
import Rulebook.Proofs.Ruleset.Building

/-!
# Fallbacks of rulesets that are built

A fallback is read from a description like any other ruleset, and is refused if it has a fallback itself
or says something about children. No builder makes another fallback, so that no ruleset that is
built has one of that kind, whatever the provider.
-/

namespace Rulebook

open Json (Value)

/-- A ruleset has no fallback of rules and says nothing about children. -/
structure Ruleset.Bare (r : Ruleset) : Prop where
  alternative : r.alternativeRuleSet = none
  table : r.tableElements = none
  items : r.listItems = none

/-- The fallback of a ruleset, if there is one, is bare. -/
def Ruleset.BareFallback (r : Ruleset) : Prop := ∀ a, r.alternativeRuleSet = some a → a.Bare

namespace Draft

variable {p : Provider} {read : RulesetReader} {place : Location} {draft next : Draft}

/-- A fallback that was added is bare. -/
theorem bareFallback_of_addAlternative {a : Ruleset}
    (hadd : draft.addAlternative a = .ok next) : next.ruleset.BareFallback := by
  unfold addAlternative at hadd
  split at hadd
  · cases hadd
  · next hnested =>
    obtain rfl := Except.ok.inj hadd
    obtain ⟨halternative, htable, hitems⟩ := nestedPart?_eq_none_iff.mp hnested
    rintro b hb
    obtain rfl := Option.some.inj hb
    exact ⟨halternative, htable, hitems⟩

/-- Rules leave the fallback as it is. -/
theorem alternativeRuleSet_of_addRule {name : String} {v : Value}
    (hadd : draft.addRule p name v = .ok next) :
    next.alternativeRuleSet = draft.alternativeRuleSet := by
  unfold addRule at hadd
  split at hadd
  · cases hadd
  · simp only [bind_ok_iff, take_ok_iff] at hadd
    obtain ⟨_, ⟨_, rfl⟩, arguments, _, prepared, _, hadd⟩ := hadd
    split at hadd <;>
      · obtain rfl := Except.ok.inj hadd
        rfl

variable (hdraft : draft.ruleset.BareFallback)

include hdraft

/-- A core entry keeps the fallback bare. -/
theorem bareFallback_of_addCore {key : CoreKey} {v : Value}
    (hadd : draft.addCore read place key v = .ok next) : next.ruleset.BareFallback := by
  cases key with
  | optional | nullable | empty | nonEmpty | tableElements | listItems =>
    simp only [addCore, bind_ok_iff] at hadd
    obtain ⟨_, _, hadd⟩ := hadd
    obtain rfl := Except.ok.inj hadd
    exact hdraft
  | enum | alternativeEnum =>
    simp only [addCore, located_ok_iff, addEnum, addAlternativeEnum, bind_ok_iff] at hadd
    obtain ⟨_, _, hadd⟩ := hadd
    obtain rfl := Except.ok.inj hadd
    exact hdraft
  | alternativeRuleSet =>
    simp only [addCore, bind_ok_iff, located_ok_iff] at hadd
    obtain ⟨_, _, hadd⟩ := hadd
    exact bareFallback_of_addAlternative hadd

/-- An entry keeps the fallback bare. -/
theorem bareFallback_of_add {entry : Entry} (hadd : draft.add p read place entry = .ok next) :
    next.ruleset.BareFallback := by
  cases entry with
  | core key v =>
    simp only [add, bind_ok_iff, located_ok_iff, take_ok_iff] at hadd
    obtain ⟨_, ⟨_, rfl⟩, hadd⟩ := hadd
    have hnamed : { draft with names := key.name :: draft.names }.ruleset.BareFallback := hdraft
    exact bareFallback_of_addCore hnamed hadd
  | rule name v =>
    intro a ha
    exact hdraft a ((alternativeRuleSet_of_addRule (located_ok_iff.mp hadd)).symm.trans ha)

/-- Finishing leaves the fallback as it is. -/
theorem bareFallback_of_finish {p : Provider} {r : Ruleset} (hfinish : draft.finish p = .ok r) :
    r.BareFallback := by
  simp only [finish, bind_ok_iff] at hfinish
  obtain ⟨_, _, _, _, hfinish⟩ := hfinish
  obtain rfl := Except.ok.inj hfinish
  exact hdraft

end Draft

/-- Every ruleset in one that is read has a bare fallback or none. -/
theorem Ruleset.bareFallbacks_of_ofDescriptionWithin {p : Provider} {levels : Nat}
    {description : Value} {place : Location} {r : Ruleset}
    (h : ofDescriptionWithin p levels description place = .ok r) : r.Everywhere BareFallback := by
  have hblank : Draft.blank.ruleset.BareFallback := fun a ha => by cases ha
  exact everywhere_of_ofDescriptionWithin (I := fun draft => draft.ruleset.BareFallback) hblank
    (fun hdraft hadd => Draft.bareFallback_of_add hdraft hadd)
    (fun hdraft hfinish => Draft.bareFallback_of_finish hdraft hfinish) h

/-- A property holds everywhere in the rulesets of a piece. -/
def Piece.Everywhere (P : Ruleset → Prop) : Piece → Prop
  | .ruleset r => r.Everywhere P
  | .table t => ∀ e ∈ t.elements, e.2.Everywhere P
  | .items l => l.itemRules.Everywhere P

/-- What holds everywhere in rulesets that are read, whatever table or list they have, holds everywhere
in what is built. -/
theorem Piece.Built.everywhere {p : Provider} {P : Ruleset → Prop}
    (hread : ∀ {description place r}, Ruleset.ofDescriptionAt p description place = .ok r →
      r.Everywhere P)
    (htable : ∀ {r : Ruleset} {t}, P r → P (r.withTableElements t))
    (hitems : ∀ {r : Ruleset} {l}, P r → P (r.withListItems l)) {piece : Piece}
    (h : piece.Built p) : piece.Everywhere P := by
  induction h with
  | read _ reads => exact hread reads
  | table _ declares ih =>
    exact fun e he => ih.parts _ (Ruleset.mem_parts_of_element declares he)
  | items _ declares ih => exact ih.parts _ (Ruleset.mem_parts_of_items declares)
  | alternative _ declares ih => exact ih.parts _ (Ruleset.mem_parts_of_alternative declares)
  | element _ declares ih => exact ih _ (Association.mem_of_lookup declares)
  | itemRules _ ih => exact ih
  | withElement _ key _ ihTable ihRuleset =>
    intro e he
    rcases Association.mem_of_mem_insert he with rfl | hold
    · exact ihRuleset
    · exact ihTable e hold
  | withItemRules _ _ _ ihRuleset => exact ihRuleset
  | withTableElements _ _ ihRuleset ihTable =>
    exact .node (htable ihRuleset.here)
      (Ruleset.forall_mem_parts_withTableElements ihRuleset.parts ihTable)
  | withListItems _ _ ihRuleset ihItems =>
    exact .node (hitems ihRuleset.here)
      (Ruleset.forall_mem_parts_withListItems ihRuleset.parts ihItems)

/-- Every ruleset in one that is built has a bare fallback or none. -/
theorem Piece.Built.bareFallbacks {p : Provider} {r : Ruleset} (h : Built p (.ruleset r)) :
    r.Everywhere Ruleset.BareFallback :=
  h.everywhere Ruleset.bareFallbacks_of_ofDescriptionWithin id id

end Rulebook
