import Rulebook.Proofs.Challenge.FormerNames
import Rulebook.Proofs.Description.Canonical
import Rulebook.Proofs.Description.Levels
import Rulebook.Proofs.Ruleset.Building

/-!
# Rulesets that are built and described

Builders put rules for children into rulesets that have no guard for them. The canonical description
of such a ruleset is read with the guard of containers in front of them, and what comes back is
another ruleset. All other rulesets come back equal, and with the same verdicts.
-/

namespace Rulebook

open Json (Value)

/-! ## What is read back -/

mutual

/-- What is read from the canonical description of a ruleset: the ruleset without former names, and
with a guard wherever rules for children have none. -/
def Ruleset.reread (p : Provider) : Ruleset → Ruleset
  | ⟨types, patterns, optional, nullable, emptiness, enum, alternative, table, items⟩ =>
    Ruleset.withContainerGuard p
      { typeRules := types.map Rule.plain
        patternRules := patterns.map Rule.plain
        optional := optional
        nullable := nullable
        emptiness := emptiness
        alternativeEnum := enum
        alternativeRuleSet :=
          match alternative with
          | none => none
          | some a => some (a.reread p)
        tableElements :=
          match table with
          | none => none
          | some ⟨elements, membership⟩ => some ⟨Ruleset.rereadElements p elements, membership⟩
        listItems :=
          match items with
          | none => none
          | some ⟨least, most, rules⟩ => some ⟨least, most, rules.reread p⟩ }

/-- What is read from the canonical descriptions of declared elements. -/
def Ruleset.rereadElements (p : Provider) : List (String × Ruleset) → List (String × Ruleset)
  | [] => []
  | (key, r) :: rest => (key, r.reread p) :: Ruleset.rereadElements p rest

end

namespace Ruleset

variable {p : Provider} {r : Ruleset}

/-- Declared elements are read back one by one. -/
theorem rereadElements_eq (elements : List (String × Ruleset)) :
    rereadElements p elements = elements.map fun e => (e.1, e.2.reread p) := by
  induction elements with
  | nil => rfl
  | cons e rest ih => rw [rereadElements, ih, List.map_cons]

/-- What is read back, from what is for the parts. -/
theorem reread_eq (r : Ruleset) :
    r.reread p = (r.plainWith (reread p)).withContainerGuard p := by
  obtain ⟨types, patterns, optional, nullable, emptiness, enum, alternative, table, items⟩ := r
  rw [reread.eq_def]
  cases alternative <;> cases table <;> cases items <;>
    simp [plainWith, rereadElements_eq, TableElements.map, ListItems.map]

/-- What is read back has the same parts that a fallback must not have. -/
theorem nestedPart?_reread (a : Ruleset) :
    Draft.nestedPart? (a.reread p) = Draft.nestedPart? a := by
  rw [reread_eq, withContainerGuard]
  split <;> simp [Draft.nestedPart?, plainWith]

/-- The canonical description of a ruleset that is intact is read, if there are levels enough. -/
theorem ofDescriptionWithin_toJson_of_intact (hp : p.Coherent) (h : r.Everywhere (Intact p))
    {levels : Nat} (hlevels : sizeOf r ≤ levels) (place : Location) :
    ofDescriptionWithin p levels r.toJson place = .ok (r.reread p) := by
  induction h generalizing levels place with
  | @node r intact _ ih =>
    cases levels with
    | zero =>
      cases r
      simp at hlevels
    | succ levels =>
      have hread : ∀ q ∈ r.parts, ∀ place,
          ofDescriptionWithin p levels q.toJson place = .ok (q.reread p) := by
        intro q hq place
        have hsmaller := sizeOf_lt_of_mem_parts hq
        exact ih q hq (by omega) place
      rw [reread_eq]
      exact intact.sound.ofDescriptionWithin_toJson hp intact.typed intact.flagged hread
        nestedPart?_reread place

/-- Whatever is read from the canonical description of an intact ruleset is what comes back, since
it would be read with more levels as well. -/
theorem eq_reread_of_ofDescription (hp : p.Coherent) (h : r.Everywhere (Intact p))
    {again : Ruleset} (hread : ofDescription p r.toJson = .ok again) : again = r.reread p := by
  let levels := maxDepth + 1 - Location.root.depth
  have hmore : ofDescriptionWithin p (levels + sizeOf r) r.toJson .root = .ok again :=
    ofDescriptionWithin_mono (Nat.le_add_right levels _) _ _ _ hread _
  rw [ofDescriptionWithin_toJson_of_intact hp h (Nat.le_add_left _ levels)] at hmore
  exact (Except.ok.inj hmore).symm

/-! ## Equality and verdicts -/

/-- Equal rulesets have the same type-checking rules. -/
theorem sameRules_of_same {a b : Ruleset} (h : a.same b = true) :
    sameRules a.typeRules b.typeRules = true := by
  obtain ⟨types, patterns, optional, nullable, emptiness, enum, alternative, table, items⟩ := a
  rw [same.eq_def] at h
  simp only [Bool.and_eq_true] at h
  exact h.1.1.1.1.1.1.1.1

/-- Without a guard in front of rules for children, what is read back has one more rule. -/
theorem same_reread_of_not_guardsChildren (h : ¬r.GuardsChildren) :
    (r.reread p).same r = false := by
  obtain ⟨hchildren, htypes⟩ : r.hasChildren = true ∧ r.typeRules = [] := by
    simpa [GuardsChildren] using h
  have hreread : (r.reread p).typeRules = [Draft.injected p.containerGuard] := by
    have hguard : (r.plainWith (reread p)).typeRules.isEmpty &&
        (r.plainWith (reread p)).hasChildren := by
      simpa [plainWith, hasChildren, htypes] using hchildren
    rw [reread_eq, withContainerGuard, if_pos hguard]
  rw [Bool.eq_false_iff]
  intro hsame
  have hrules := sameRules_of_same hsame
  rw [hreread, htypes] at hrules
  cases hrules

/-- What is read back is equal to a sound ruleset exactly if all rules for children are guarded. -/
theorem same_reread_iff (h : r.Everywhere (Sound p)) :
    (r.reread p).same r = true ↔ r.Everywhere GuardsChildren := by
  induction h with
  | @node r sound _ ih =>
    by_cases hguards : r.GuardsChildren
    · rw [reread_eq, (hguards.plainWith (reread p)).withContainerGuard_eq, sound.same_plainWith_iff]
      constructor
      · exact fun hparts => .node hguards fun q hq => (ih q hq).mp (hparts q hq)
      · exact fun heverywhere q hq => (ih q hq).mpr (heverywhere.parts q hq)
    · rw [same_reread_of_not_guardsChildren hguards]
      exact iff_of_false Bool.false_ne_true fun heverywhere => hguards heverywhere.here

/-- Where all rules for children are guarded, what is read back is the plain form. -/
theorem reread_eq_plain (h : r.Everywhere GuardsChildren) : r.reread p = r.plain := by
  induction h with
  | @node r guards _ ih =>
    rw [reread_eq, plain_eq, plainWith_congr ih, (guards.plainWith plain).withContainerGuard_eq]

/-- A ruleset that is built comes back equal, if its canonical description can be read at all,
exactly if all its rules for children are guarded; and then it comes back with the same verdicts. -/
theorem same_readBack_iff_of_built [PatternEngine] {r again : Ruleset}
    (hbuilt : Piece.Built .standard (.ruleset r))
    (hread : ofDescription .standard r.toJson = .ok again) :
    (again.same r = true ↔ r.Everywhere GuardsChildren) ∧
    (r.Everywhere GuardsChildren → ∀ mode subject keyPath,
      (again.challenge .standard mode subject keyPath).result =
        (r.challenge .standard mode subject keyPath).result) := by
  have hintact : r.Everywhere (Intact .standard) := hbuilt.intact Provider.standard_coherent
  obtain rfl := eq_reread_of_ofDescription Provider.standard_coherent hintact hread
  refine ⟨same_reread_iff (hintact.imp fun _ h => h.sound), fun hguards => ?_⟩
  intro mode subject keyPath
  rw [reread_eq_plain hguards, result_challenge_plain]

/-- Containers, of which empty ones pass. -/
def emptyContainers : Value := .object [("loopable", .bool true), ("empty", .bool true)]

/-- With a table of wheels, such containers come back equal, and with the verdict on a text. -/
theorem emptyContainers_comeBack :
    ∃ r b t again, ofDescription .standard emptyContainers = .ok r ∧
      ofDescription .standard bicycle = .ok b ∧ b.tableElements = some t ∧
      ofDescription .standard (r.withTableElements t).toJson = .ok again ∧
      again.same (r.withTableElements t) = true ∧
      (again.challenge .standard .off (.string "") "root").result = .ok false := by
  obtain ⟨r, b, t, again, hr, hb, ht, hagain, htypes, hverdict⟩ :
      ∃ r b t again, ofDescription .standard emptyContainers = .ok r ∧
        ofDescription .standard bicycle = .ok b ∧ b.tableElements = some t ∧
        ofDescription .standard (r.withTableElements t).toJson = .ok again ∧
        r.typeRules = [Draft.injected "loopable"] ∧
        ((r.withTableElements t).challenge .standard .off (.string "") "root").result =
          .ok false :=
    ⟨_, _, _, _, rfl, rfl, rfl, rfl, rfl, rfl⟩
  have hdistinct : emptyContainers.KeysDistinct ∧ bicycle.KeysDistinct := by
    simp [emptyContainers, bicycle, Association.keys, Value.KeysDistinct, Value.ItemsKeysDistinct,
      Value.MembersKeysDistinct]
  have hbuilt := (Piece.Built.read hdistinct.1 hr).withTableElements
    ((Piece.Built.read hdistinct.2 hb).table ht)
  have hguards {v : Value} {q : Ruleset} (hv : v.KeysDistinct)
      (hq : ofDescription .standard v = .ok q) : q.Everywhere GuardsChildren :=
    (regular_of_ofDescriptionWithin Provider.standard_coherent _ _ _ hv hq).everywhere_guarded.imp
      fun _ h => h.guardsChildren
  have hall : (r.withTableElements t).Everywhere GuardsChildren := by
    refine .node (fun _ => by simp [withTableElements, htypes]) ?_
    exact forall_mem_parts_withTableElements (hguards hdistinct.1 hr).parts
      fun e he => (hguards hdistinct.2 hb).parts _ (mem_parts_of_element ht he)
  obtain ⟨hsame, hresults⟩ := same_readBack_iff_of_built hbuilt hagain
  refine ⟨r, b, t, again, hr, hb, ht, hagain, hsame.mpr hall, ?_⟩
  rw [hresults hall, hverdict]

/-- Empty subjects pass, and no other rule is there to run. -/
def emptyOnly : Value := .object [("empty", .bool true)]

/-- With a table of wheels, a ruleset about emptiness alone comes back with a guard, and turns the
empty text down that it accepted before. -/
theorem emptyOnly_comesBackGuarded :
    ∃ r b t again, ofDescription .standard emptyOnly = .ok r ∧
      ofDescription .standard bicycle = .ok b ∧ b.tableElements = some t ∧
      Piece.Built .standard (.ruleset (r.withTableElements t)) ∧
      ofDescription .standard (r.withTableElements t).toJson = .ok again ∧
      again.same (r.withTableElements t) = false ∧
      ((r.withTableElements t).challenge .standard .off (.string "") "root").result = .ok true ∧
      (again.challenge .standard .off (.string "") "root").result = .ok false := by
  obtain ⟨r, b, t, again, hr, hb, ht, hrest⟩ :
      ∃ r b t again, ofDescription .standard emptyOnly = .ok r ∧
        ofDescription .standard bicycle = .ok b ∧ b.tableElements = some t ∧
        ofDescription .standard (r.withTableElements t).toJson = .ok again ∧
        again.same (r.withTableElements t) = false ∧
        ((r.withTableElements t).challenge .standard .off (.string "") "root").result =
          .ok true ∧
        (again.challenge .standard .off (.string "") "root").result = .ok false :=
    ⟨_, _, _, _, rfl, rfl, rfl, rfl, rfl, rfl, rfl⟩
  have hdistinct : emptyOnly.KeysDistinct ∧ bicycle.KeysDistinct := by
    simp [emptyOnly, bicycle, Association.keys, Value.KeysDistinct, Value.ItemsKeysDistinct,
      Value.MembersKeysDistinct]
  have hbuilt := (Piece.Built.read hdistinct.1 hr).withTableElements
    ((Piece.Built.read hdistinct.2 hb).table ht)
  exact ⟨r, b, t, again, hr, hb, ht, hbuilt, hrest⟩

end Ruleset

end Rulebook
