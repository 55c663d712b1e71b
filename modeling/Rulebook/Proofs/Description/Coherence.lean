import Rulebook.Description.Arguments
import Rulebook.Standard.Provider

/-!
# Coherent providers

What the reading of descriptions relies on: descriptions of rules bear the names that they are asked
for by, core names stay free, and guards are rules that need no arguments.
-/

namespace Rulebook

/-- A name of a type-checking rule that takes no arguments, and runs without any. -/
structure Provider.IsGuard (p : Provider) (name : String) : Prop where
  described : ∃ d, p.descriptor name = some d ∧ d.isTypeChecking = true ∧ d.allowed = 0
  prepared : p.prepare name [] = .ok ()

/-- A provider whose tables fit together, and leave the language of descriptions alone. -/
structure Provider.Coherent (p : Provider) : Prop where
  /-- A rule bears the name that it is found by. -/
  name_eq : ∀ {name d}, p.descriptor name = some d → d.name = name
  /-- A rule allows as many arguments as it requires. -/
  arity : ∀ {name d}, p.descriptor name = some d → d.required ≤ d.allowed
  /-- No rule bears a core name. -/
  core_free : ∀ key : CoreKey, p.descriptor key.name = none
  containerGuard : p.IsGuard p.containerGuard
  typeGuard : ∀ {tag guard}, p.typeGuard tag = some guard → p.IsGuard guard

/-! ## The standard rules -/

namespace StandardRule

/-- A rule that is found by a name bears it. -/
theorem name_of_ofName? {name : String} {r : StandardRule} (h : ofName? name = some r) :
    r.name = name := by
  have hname := List.find?_some h
  exact beq_iff_eq.mp hname

/-- A rule allows as many arguments as it requires. -/
theorem required_le_allowed (r : StandardRule) : r.descriptor.required ≤ r.descriptor.allowed := by
  cases r <;> decide

/-- The narrower of two guards is one of the two. -/
theorem narrower_eq_or (a b : TypeTag × StandardRule) :
    narrower a b = a ∨ narrower a b = b := by
  unfold narrower
  split
  · exact Or.inr rfl
  · exact Or.inl rfl

/-- The narrowest of some guards is one of them. -/
theorem foldl_narrower_mem (first : TypeTag × StandardRule) (rest : List (TypeTag × StandardRule)) :
    rest.foldl narrower first ∈ first :: rest := by
  induction rest generalizing first with
  | nil => simp
  | cons next rest ih =>
    have hmem := ih (narrower first next)
    rw [List.foldl_cons]
    rcases List.mem_cons.mp hmem with heq | hrest
    · rw [heq]
      rcases narrower_eq_or first next with h | h <;> simp [h]
    · simp [hrest]

/-- The guard of a tag is one of the guards, for a tag that covers it. -/
theorem mem_guards_of_guard? {tag : TypeTag} {r : StandardRule} (h : guard? tag = some r) :
    ∃ covered, (covered, r) ∈ guards ∧ covered.contains tag = true := by
  unfold guard? at h
  split at h
  · next entry hfind =>
    obtain rfl := Option.some.inj h
    have htag := List.find?_some hfind
    refine ⟨_, List.mem_of_find?_eq_some hfind, ?_⟩
    rw [beq_iff_eq.mp htag]
    simp [TypeTag.contains]
  · split at h
    · cases h
    · next first rest hfilter =>
      have hmem := foldl_narrower_mem first rest
      rw [← hfilter] at hmem
      obtain rfl := Option.some.inj h
      obtain ⟨hguard, hcovers⟩ := List.mem_filter.mp hmem
      exact ⟨_, hguard, hcovers⟩

/-- A rule in the table of guards is found by its name. -/
theorem ofName?_of_mem_guards {covered : TypeTag} {r : StandardRule} (h : (covered, r) ∈ guards) :
    ofName? r.name = some r := by
  have hall : ∀ entry ∈ guards, ofName? entry.2.name = some entry.2 := by
    simp only [guards, List.forall_mem_cons, List.not_mem_nil, false_implies, implies_true]
    repeat' constructor
  exact hall _ h

/-- A rule in the table of guards is a guard of the standard provider. -/
theorem standard_isGuard [PatternEngine] {covered : TypeTag} {r : StandardRule}
    (h : (covered, r) ∈ guards) :
    Provider.standard.IsGuard r.name := by
  have hall : ∀ entry ∈ guards, entry.2.descriptor.isTypeChecking = true ∧
      entry.2.descriptor.allowed = 0 ∧ entry.2.prepare [] = .ok () := by
    simp only [guards, List.forall_mem_cons, List.not_mem_nil, false_implies, implies_true]
    repeat' constructor
  have hfound := ofName?_of_mem_guards h
  obtain ⟨hchecking, hallowed, hprepared⟩ := hall _ h
  constructor
  · exact ⟨r.descriptor, by simp [Provider.standard, hfound], hchecking, hallowed⟩
  · simpa [Provider.standard, hfound] using hprepared

end StandardRule

/-- The standard provider is coherent. -/
theorem Provider.standard_coherent [PatternEngine] : Provider.standard.Coherent where
  name_eq := by
    intro name d h
    obtain ⟨r, hr, rfl⟩ := Option.map_eq_some_iff.mp h
    exact StandardRule.name_of_ofName? hr
  arity := by
    intro name d h
    obtain ⟨r, _, rfl⟩ := Option.map_eq_some_iff.mp h
    exact r.required_le_allowed
  core_free := by
    intro key
    cases key <;> rfl
  containerGuard := by
    have hmem : (TypeTag.container, StandardRule.loopable) ∈ StandardRule.guards := by decide
    exact StandardRule.standard_isGuard hmem
  typeGuard := by
    intro tag guard h
    obtain ⟨r, hr, rfl⟩ := Option.map_eq_some_iff.mp h
    obtain ⟨covered, hmem, -⟩ := StandardRule.mem_guards_of_guard? hr
    exact StandardRule.standard_isGuard hmem

end Rulebook
