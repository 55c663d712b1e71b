import Rulebook.Proofs.Description.ErrorPlaces

/-!
# Chains of former names

A name and the names that it leads to, one rename after the other, form an orbit: it may end, go on
for ever, or come back to itself. Resolving a name goes along its orbit up to the first name that
has a description, but not further than eight renames. A name that it gets stuck at is the one that
is told as unknown, with all names on the way.
-/

namespace Rulebook

open Json (Value)

namespace Provider

/-- The name that a name leads to after so many renames, if there is one. -/
def orbit (p : Provider) (name : String) : Nat → Option String
  | 0 => some name
  | k + 1 => (p.orbit name k).bind p.renamed

/-- The name after so many renames has a description. -/
def DescribedAfter (p : Provider) (name : String) (k : Nat) : Prop :=
  ∃ n d, p.orbit name k = some n ∧ p.descriptor n = some d

/-- So many renames lead to a name, over names of which none has a description. Those on the way are
listed with the newest one first. -/
structure Follows (p : Provider) (name : String) (k : Nat) (last : String) (former : List String) :
    Prop where
  reached : p.orbit name k = some last
  passed : former.map some = (List.range k).reverse.map (p.orbit name)
  undescribed : ∀ j < k, ¬p.DescribedAfter name j

/-- What following an orbit comes to, with names looked up after less than so many renames: the
first description, or the name where the orbit ends or is followed no further. -/
def ComesTo (p : Provider) (name : String) (limit : Nat) : Except Unresolved Resolved → Prop
  | .ok found => ∃ k < limit, ∃ last, p.Follows name k last found.formerNames ∧
      p.descriptor last = some found.descriptor
  | .error stuck => ∃ k, p.Follows name k stuck.name stuck.formerNames ∧
      (k < limit ∧ p.descriptor stuck.name = none ∧ p.renamed stuck.name = none ∨ k = limit)

variable {p : Provider} {name last next : String} {former : List String} {k : Nat}

/-! ## Following an orbit -/

/-- An orbit that has not ended has not ended before. -/
theorem exists_orbit_of_le {j : Nat} (hjk : j ≤ k) (h : p.orbit name k = some last) :
    ∃ n, p.orbit name j = some n := by
  induction k generalizing last with
  | zero =>
    obtain rfl := Nat.le_zero.mp hjk
    exact ⟨last, h⟩
  | succ k ih =>
    rcases Nat.le_succ_iff.mp hjk with hjk | rfl
    · obtain ⟨middle, hmiddle, -⟩ := Option.bind_eq_some_iff.mp h
      exact ih hjk hmiddle
    · exact ⟨last, h⟩

namespace Follows

/-- Before the first rename there is the name itself. -/
theorem start (p : Provider) (name : String) : p.Follows name 0 name [] where
  reached := rfl
  passed := rfl
  undescribed := fun _ hj => absurd hj (Nat.not_lt_zero _)

/-- A rename leads on from a name that has no description. -/
theorem step (h : p.Follows name k last former) (hnone : p.descriptor last = none)
    (hnext : p.renamed last = some next) : p.Follows name (k + 1) next (last :: former) where
  reached := by simp [orbit, h.reached, hnext]
  passed := by simp [List.range_succ, h.reached, h.passed]
  undescribed := by
    intro j hj
    rcases Nat.lt_succ_iff_lt_or_eq.mp hj with hj | rfl
    · exact h.undescribed j hj
    · rintro ⟨n, d, hn, hd⟩
      obtain rfl := Option.some.inj (h.reached.symm.trans hn)
      rw [hnone] at hd
      cases hd

/-- The number of renames determines the name that they lead to and the names on the way. -/
theorem unique {last' : String} {former' : List String} (h : p.Follows name k last former)
    (h' : p.Follows name k last' former') : last = last' ∧ former = former' :=
  ⟨Option.some.inj (h.reached.symm.trans h'.reached),
    (List.map_inj_right fun _ _ => Option.some.inj).mp (h.passed.trans h'.passed.symm)⟩

/-- Nothing with a description is followed further. -/
theorem le_of_describedAfter {j : Nat} (h : p.Follows name k last former)
    (hj : p.DescribedAfter name j) : k ≤ j :=
  Nat.not_lt.mp fun hlt => h.undescribed j hlt hj

/-- Names that are looked up one after the other come to what following the orbit comes to. -/
theorem comesTo_resolveWithin (h : p.Follows name k last former) (lookups : Nat) :
    p.ComesTo name (k + lookups) (p.resolveWithin lookups last former) := by
  -- by the lookups that are left; what has been followed so far is any orbit's beginning
  induction lookups generalizing k last former with
  | zero => exact ⟨k, h, .inr rfl⟩
  | succ lookups ih =>
    rw [resolveWithin]
    cases hd : p.descriptor last with
    | some d => exact ⟨k, by omega, last, h, hd⟩
    | none =>
      cases hnext : p.renamed last with
      | none => exact ⟨k, h, .inl ⟨by omega, hd, hnext⟩⟩
      | some next =>
        have hnextTo := ih (h.step hd hnext)
        rwa [Nat.add_right_comm] at hnextTo

end Follows

/-! ## What following an orbit comes to -/

/-- An orbit goes no further than where it ends. -/
theorem Follows.le_of_renamed_eq_none {j : Nat} {n : String} (h : p.Follows name k last former)
    (hend : p.renamed last = none) (hn : p.orbit name j = some n) : j ≤ k := by
  refine Nat.not_lt.mp fun hlt => ?_
  obtain ⟨m, hm⟩ := exists_orbit_of_le hlt hn
  simp [orbit, h.reached, hend] at hm

namespace ComesTo

variable {limit : Nat}

/-- If an orbit comes to no description, none of the names that are looked up has one. -/
theorem not_describedAfter {j : Nat} {stuck : Unresolved} (h : p.ComesTo name limit (.error stuck))
    (hj : j < limit) : ¬p.DescribedAfter name j := by
  obtain ⟨k, hk, ⟨-, hnone, hend⟩ | rfl⟩ := h
  · intro hdescribed
    obtain ⟨n, d, hn, hd⟩ := id hdescribed
    obtain rfl : j = k :=
      Nat.le_antisymm (hk.le_of_renamed_eq_none hend hn) (hk.le_of_describedAfter hdescribed)
    obtain rfl := Option.some.inj (hk.reached.symm.trans hn)
    rw [hnone] at hd
    cases hd
  · exact hk.undescribed j hj

/-- Following an orbit comes to one thing only. -/
theorem unique {outcome outcome' : Except Unresolved Resolved}
    (h : p.ComesTo name limit outcome) (h' : p.ComesTo name limit outcome') :
    outcome = outcome' := by
  match outcome, outcome' with
  | .ok found, .ok found' =>
    obtain ⟨k, -, last, hk, hd⟩ := h
    obtain ⟨k', -, last', hk', hd'⟩ := h'
    obtain rfl : k = k' := Nat.le_antisymm
      (hk.le_of_describedAfter ⟨last', found'.descriptor, hk'.reached, hd'⟩)
      (hk'.le_of_describedAfter ⟨last, found.descriptor, hk.reached, hd⟩)
    obtain ⟨rfl, hformer⟩ := hk.unique hk'
    have hdescriptor := Option.some.inj (hd.symm.trans hd')
    cases found
    cases found'
    simp_all
  | .ok found, .error stuck =>
    obtain ⟨k, hlt, last, hk, hd⟩ := h
    exact absurd ⟨last, found.descriptor, hk.reached, hd⟩ (h'.not_describedAfter hlt)
  | .error stuck, .ok found =>
    obtain ⟨k, hlt, last, hk, hd⟩ := h'
    exact absurd ⟨last, found.descriptor, hk.reached, hd⟩ (h.not_describedAfter hlt)
  | .error stuck, .error stuck' =>
    obtain ⟨k, hk, hstop⟩ := h
    obtain ⟨k', hk', hstop'⟩ := h'
    -- neither stops before the other: where one orbit ends, so does the other, and the limit is one
    obtain rfl : k = k' := by
      rcases hstop with ⟨hlt, -, hend⟩ | rfl <;> rcases hstop' with ⟨hlt', -, hend'⟩ | rfl
      · exact Nat.le_antisymm (hk'.le_of_renamed_eq_none hend' hk.reached)
          (hk.le_of_renamed_eq_none hend hk'.reached)
      · exact absurd (hk.le_of_renamed_eq_none hend hk'.reached) (Nat.not_le.mpr hlt)
      · exact absurd (hk'.le_of_renamed_eq_none hend' hk.reached) (Nat.not_le.mpr hlt')
      · rfl
    obtain ⟨hname, hformer⟩ := hk.unique hk'
    cases stuck
    cases stuck'
    simp_all

end ComesTo

/-- A name is resolved to what following its orbit comes to. -/
theorem resolve_eq_iff {outcome : Except Unresolved Resolved} :
    p.resolve name = outcome ↔ p.ComesTo name (maxRenames + 1) outcome := by
  have h : p.ComesTo name (maxRenames + 1) (p.resolve name) := by
    simpa only [Nat.zero_add, resolve] using
      (Follows.start p name).comesTo_resolveWithin (maxRenames + 1)
  constructor
  · rintro rfl
    exact h
  · exact h.unique

end Provider

/-! ## Names in a description -/

/-- A step may find a fault, but no unknown name. -/
abbrev KnowsName {α : Type} (step : Except DefinitionFault α) : Prop :=
  FailsOnly (fun fault => ∀ last former, fault ≠ .unknownRule last former) step

/-- Once its name is known, a rule is added or refused for another reason. -/
theorem Resolved.knowsName_add (p : Provider) (draft : Draft) (found : Resolved) (v : Value) :
    KnowsName (do
      let draft ← draft.take found.descriptor.name found.formerNames
      let arguments ← found.arguments v
      let arguments ← found.prepared p arguments
      if found.descriptor.isTypeChecking then
        .ok { draft with typeRules := draft.typeRules ++ [found.rule arguments] }
      else .ok (draft.addPattern found.descriptor.semanticType (found.rule arguments))) := by
  have htake : KnowsName (draft.take found.descriptor.name found.formerNames) := by
    unfold Draft.take
    split <;> simp
  have harguments : KnowsName (found.arguments v) := by
    unfold Resolved.arguments Resolved.arityFault
    repeat' split
    all_goals simp
  have hprepared (arguments : Arguments) : KnowsName (found.prepared p arguments) := by
    unfold Resolved.prepared
    split <;> simp
  refine htake.bind fun _ _ => harguments.bind fun _ _ => (hprepared _).bind fun _ _ => ?_
  split <;> simp

/-- The entry of a rule tells a name as unknown if its own name gets stuck there. -/
theorem Draft.add_unknownRule_iff {p : Provider} {read : RulesetReader} {place : Location}
    {draft : Draft} {name : String} {v : Value} {stuck : Unresolved} :
    draft.add p read place (.rule name v) =
        .error ⟨.unknownRule stuck.name stuck.formerNames, place⟩ ↔
      p.resolve name = .error stuck := by
  rw [add, addRule]
  cases p.resolve name with
  | error other =>
    cases stuck
    cases other
    simp [located]
  | ok found =>
    have hknown : FailsOnly (fun e => ∀ last former, e.fault ≠ .unknownRule last former)
        (located place _) :=
      .located (Resolved.knowsName_add p draft found v)
    constructor
    · intro h
      exact absurd rfl (hknown _ h stuck.name stuck.formerNames)
    · intro h
      cases h

/-- Resolving a name follows its orbit for at most eight renames. It finds the first name there that
has a description, or else gets stuck at the last name that it comes to: the one where the orbit
ends, or the ninth one, which is not looked up any more. The names on the way come along, the newest
first, and an entry of a description whose name gets stuck tells that name as unknown. -/
theorem Provider.resolve_follows_orbit (p : Provider) (name : String) :
    ((∃ found, p.resolve name = .ok found) ↔ ∃ k ≤ 8, p.DescribedAfter name k) ∧
    (∀ found, p.resolve name = .ok found ↔
      ∃ k ≤ 8, ∃ last, p.Follows name k last found.formerNames ∧
        p.descriptor last = some found.descriptor) ∧
    (∀ stuck, p.resolve name = .error stuck ↔
      ∃ k, p.Follows name k stuck.name stuck.formerNames ∧
        (k ≤ 8 ∧ p.descriptor stuck.name = none ∧ p.renamed stuck.name = none ∨ k = 9)) ∧
    (∀ (draft : Draft) (read : RulesetReader) (place : Location) (v : Value) (stuck : Unresolved),
      draft.add p read place (.rule name v) =
          .error ⟨.unknownRule stuck.name stuck.formerNames, place⟩ ↔
        p.resolve name = .error stuck) := by
  have hfound (found : Resolved) : p.resolve name = .ok found ↔
      ∃ k ≤ 8, ∃ last, p.Follows name k last found.formerNames ∧
        p.descriptor last = some found.descriptor := by
    simp only [resolve_eq_iff, ComesTo, maxRenames, Nat.lt_succ_iff]
  have hstuck (stuck : Unresolved) : p.resolve name = .error stuck ↔
      ∃ k, p.Follows name k stuck.name stuck.formerNames ∧
        (k ≤ 8 ∧ p.descriptor stuck.name = none ∧ p.renamed stuck.name = none ∨ k = 9) := by
    simp only [resolve_eq_iff, ComesTo, maxRenames, Nat.lt_succ_iff]
  refine ⟨⟨?_, ?_⟩, hfound, hstuck, fun _ _ _ _ _ => Draft.add_unknownRule_iff⟩
  · rintro ⟨found, h⟩
    obtain ⟨k, hk, last, hfollows, hd⟩ := (hfound found).mp h
    exact ⟨k, hk, last, found.descriptor, hfollows.reached, hd⟩
  · rintro ⟨k, hk, hdescribed⟩
    cases h : p.resolve name with
    | ok found => exact ⟨found, rfl⟩
    | error stuck =>
      exact absurd hdescribed ((resolve_eq_iff.mp h).not_describedAfter (Nat.lt_succ_of_le hk))

/-- A name that is renamed to itself is looked up nine times. -/
example : { Provider.standard with renamed := some }.resolve "wheel" =
    .error ⟨"wheel", List.replicate 9 "wheel"⟩ := by
  rfl

end Rulebook
