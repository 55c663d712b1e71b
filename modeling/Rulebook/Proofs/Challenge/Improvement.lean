import Rulebook.Proofs.Challenge.Tally

/-!
# Better verdicts

One walk improves on another if it comes to a verdict wherever the other does, and to a positive one
wherever the other does so. The walks of tables and lists improve when they ask for less: fewer keys,
looser bounds, better verdicts on children. A fallback that improves need not, since behind it children
are looked at that were not before.
-/

namespace Rulebook

open Json (Value)

namespace Effect

/-- Wherever an effect has a verdict, the other one has a verdict at least as good. -/
def Improved (e e' : Effect) : Prop :=
  ∀ verdict, e.result = .ok verdict →
    ∃ better, e'.result = .ok better ∧ (verdict = true → better = true)

namespace Improved

variable {a a' b b' c c' : Effect}

theorem refl (e : Effect) : Improved e e := fun verdict h => ⟨verdict, h, id⟩

theorem trans (h : Improved a b) (h' : Improved b c) : Improved a c := by
  intro verdict hverdict
  obtain ⟨better, hbetter, himplies⟩ := h verdict hverdict
  obtain ⟨best, hbest, himplies'⟩ := h' better hbetter
  exact ⟨best, hbest, himplies' ∘ himplies⟩

/-- A positive verdict is better than anything. -/
theorem accepted (e : Effect) : Improved e .accepted := fun _ _ => ⟨true, rfl, fun _ => rfl⟩

/-- Effects of one tally are as good as each other. -/
theorem of_sameTally (h : SameTally a a') : Improved a a' := fun verdict hverdict =>
  ⟨verdict, (h.perm hverdict).1, id⟩

/-- What the better effect comes to if the other one is positive. -/
theorem result_of_true (h : Improved a a') (htrue : a.result = .ok true) : a'.result = .ok true := by
  obtain ⟨better, hbetter, himplies⟩ := h true htrue
  rw [hbetter, himplies rfl]

/-- Walks over children that go on behind failures improve with their parts. -/
theorem childRelation : ChildRelation .all Improved where
  accepted := refl _
  both {a a' b b'} ha hb := by
    intro verdict h
    obtain ⟨x, y, hx, hy, rfl⟩ := (result_both_of_goesOn rfl).mp h
    obtain ⟨x', hx', himplies⟩ := ha x hx
    obtain ⟨y', hy', himplies'⟩ := hb y hy
    refine ⟨x' && y', (result_both_of_goesOn rfl).mpr ⟨x', y', hx', hy', rfl⟩, ?_⟩
    simpa using fun h h' => ⟨himplies h, himplies' h'⟩
  orElse {a a' b b'} ha hb := by
    intro verdict h
    rw [result_orElse] at h ⊢
    cases hx : a.result with
    | error e => simp [hx] at h
    | ok x =>
      obtain ⟨x', hx', himplies⟩ := ha x hx
      cases x' with
      | true => exact ⟨true, by rw [hx'], fun _ => rfl⟩
      | false =>
        have hfalse : x = false := by simpa using himplies
        rw [hx, hfalse] at h
        rw [hx']
        exact hb verdict h

/-- What follows fallbacks improves if each way on does, and if the way of a rescue improves on that of
a failure where only the better fallback rescues. -/
theorem branch (ha : Improved a a') (hb : Improved b b') (hc : Improved c c')
    (hrescue : a.result = .ok false → a'.result = .ok true → Improved c b') :
    Improved (.branch a b c) (.branch a' b' c') := by
  intro verdict h
  rw [result_branch] at h ⊢
  cases hx : a.result with
  | error e => simp [hx] at h
  | ok x =>
    obtain ⟨x', hx', himplies⟩ := ha x hx
    rw [hx] at h
    rw [hx']
    cases x with
    | true =>
      rw [himplies rfl]
      exact hb verdict h
    | false =>
      cases x' with
      | true => exact hrescue hx hx' verdict h
      | false => exact hc verdict h

end Improved

end Effect

/-- The second walk improves on the first. -/
def Walk.ImprovedBy (w w' : Walk Bool) : Prop := Walk.InStep Effect.Improved w w'

namespace Walk.ImprovedBy

open Effect

variable {w w' w'' : Walk Bool}

/-- A walk that accepts improves on any. -/
theorem accepted (h : ∃ e, w.HasEffect e) : w.ImprovedBy (pure true) := by
  obtain ⟨e, he⟩ := h
  exact ⟨e, .accepted, he, .accepted, .accepted e⟩

/-- Walks that are alike improve like each other. -/
theorem alike {v v' : Walk Bool} (hv : v.Alike w) (h : w.ImprovedBy w') (hv' : v'.Alike w') :
    v.ImprovedBy v' := by
  have hleft : v.ImprovedBy w' := InStep.trans hv h fun hs hi => (Improved.of_sameTally hs).trans hi
  exact InStep.trans hleft hv'.symm fun hi hs => hi.trans (.of_sameTally hs)

/-- Failures do not improve, and are no worse than each other. -/
theorem failed {mode : RecordMode} {place : Location} {subject : Value} {kind kind' : FailureKind} :
    ImprovedBy (.fail mode place subject kind) (.fail mode place subject kind') :=
  InStep.failed fun verdict h => ⟨verdict, h, id⟩

/-- A better fallback leads a subject on to something better if it is another one for null only. -/
theorem leadInStep {a a' : Walk Bool} {subject : Value} (h : a.ImprovedBy a')
    (hsame : subject.isNull = false → a = a') : LeadInStep Improved subject a a' := by
  rintro b b' c c' ⟨eb, eb', heb, heb', hb⟩ ⟨ec, ec', hec, hec', hc⟩ hnull
  obtain ⟨ea, ea', hea, hea', ha⟩ := h
  refine ⟨_, _, hea.branch heb hec, hea'.branch heb' hec', ha.branch hb hc fun hfalse htrue => ?_⟩
  cases hsubject : subject.isNull with
  | true =>
    -- null has no children that might be looked at behind the rescue
    obtain rfl := (hnull hsubject ▸ heb').unique HasEffect.accepted
    exact .accepted ec
  | false =>
    obtain rfl := hea.unique (hsame hsubject ▸ hea')
    rw [hfalse] at htrue
    cases htrue

end Walk.ImprovedBy

/-! ## Tables -/

section Children

open Effect

variable {subject : Value} {place : Location} {kind : ContainerKind}

/-- The declared keys are all there that a subject must not lack. -/
theorem missingKeys_eq_nil_iff {elements : List (String × Ruleset)} :
    missingKeys subject elements = [] ↔
      ∀ e ∈ elements, e.2.optional = true ∨ e.1 ∈ Association.keys (children subject) := by
  simp only [missingKeys, List.map_eq_nil_iff, List.filter_eq_nil_iff]
  refine forall₂_congr fun e _ => ?_
  cases e.2.optional <;> simp

variable {membership membership' : Membership} {declared declared' : String → Option Visit}

/-- A child at a table comes to a better verdict if its key is admitted where it was before, or what is
declared for it improves. -/
theorem improved_visitMember {child : String × Value}
    (hadmits : declared child.1 = none → membership.admits child.1 = true →
      membership'.admits child.1 = true)
    (hdeclared : Option.Rel (fun visit visit' =>
        (visit child.2 (place.child kind child.1)).ImprovedBy
          (visit' child.2 (place.child kind child.1)))
      (declared child.1) (declared' child.1)) :
    (visitMember .all subject place kind membership declared child).ImprovedBy
      (visitMember .all subject place kind membership' declared' child) := by
  simp only [visitMember]
  generalize declared child.1 = visit, declared' child.1 = visit' at hadmits hdeclared
  cases hdeclared with
  | some h => exact h
  | none =>
    dsimp only
    cases hold : membership.admits child.1 with
    | true =>
      rw [hadmits rfl hold]
      exact Improved.childRelation.inStep_accepted
    | false =>
      cases membership'.admits child.1 with
      | true => exact .accepted ⟨_, .failed .all place subject _⟩
      | false =>
        simp only [Bool.false_eq_true, if_false]
        exact .failed

/-- A subject meets a table better that admits what was admitted, misses nothing where nothing was
missing before, and declares something better. -/
theorem improved_visitTable {elements elements' : List (String × Ruleset)}
    (hadmits : ∀ key, declared key = none → membership.admits key = true →
      membership'.admits key = true)
    (hmissing : missingKeys subject elements = [] → missingKeys subject elements' = [])
    (hdeclared : ∀ child ∈ children subject, Option.Rel (fun visit visit' =>
        (visit child.2 (place.child kind child.1)).ImprovedBy
          (visit' child.2 (place.child kind child.1)))
      (declared child.1) (declared' child.1)) :
    (visitTable .all subject place membership elements declared kind).ImprovedBy
      (visitTable .all subject place membership' elements' declared' kind) := by
  refine Improved.childRelation.inStep_both ?_ ?_
  · refine Improved.childRelation.inStep_every (List.forall₂_same.mpr fun child hchild => ?_)
    exact improved_visitMember (hadmits child.1) (hdeclared child hchild)
  · obtain ⟨e, he, hresult⟩ :=
      exists_hasEffect_missing .all subject place (missingKeys subject elements)
    obtain ⟨e', he', hresult'⟩ :=
      exists_hasEffect_missing .all subject place (missingKeys subject elements')
    refine ⟨e, e', he, he', fun verdict h => ⟨_, hresult', ?_⟩⟩
    obtain rfl := Except.ok.inj (hresult.symm.trans h)
    simpa using hmissing

/-! ## Lists -/

/-- An upper bound leaves as much room as another one. -/
def AtMost (most most' : Option Nat) : Prop :=
  ∀ bound', most' = some bound' → ∃ bound, most = some bound ∧ bound ≤ bound'

theorem AtMost.refl (most : Option Nat) : AtMost most most := fun bound h => ⟨bound, h, le_rfl⟩

/-- The number of items is judged better by a greater bound. -/
theorem improved_boundWalk {most most' : Option Nat} (h : AtMost most most') (count : Nat) :
    (boundWalk subject place most 0 count).ImprovedBy (boundWalk subject place most' 0 count) := by
  have heffect : ∃ e, (boundWalk subject place most 0 count).HasEffect e := by
    have halike : (boundWalk subject place most 0 count).Alike
        (boundWalk subject place most 0 count) := boundWalk_alike rfl 0 count
    obtain ⟨e, _, he, _⟩ := halike
    exact ⟨e, he⟩
  cases most' with
  | none => exact .accepted heffect
  | some bound' =>
    obtain ⟨bound, rfl, hle⟩ := h bound' rfl
    by_cases hpassed' : bound' < count
    · have hpassed : bound < count := by omega
      simp only [boundWalk, Nat.zero_le, Nat.zero_add, true_and, if_pos hpassed, if_pos hpassed']
      exact .failed
    · simp only [boundWalk, Nat.zero_le, Nat.zero_add, true_and, if_neg hpassed'] at heffect ⊢
      exact .accepted heffect

/-- A subject meets a list better that asks for fewer items, has room for more, and declares something
better for them. -/
theorem improved_visitItems {least least' : Nat} {most most' : Option Nat} {visit visit' : Visit}
    (hleast : least' ≤ least) (hmost : AtMost most most')
    (hvisit : ∀ child ∈ children subject, (visit child.2 (place.child kind child.1)).ImprovedBy
      (visit' child.2 (place.child kind child.1))) :
    (visitItems .all subject place least most visit kind).ImprovedBy
      (visitItems .all subject place least' most' visit' kind) := by
  refine Improved.childRelation.inStep_both ?_ ?_
  · -- the bounds are passed at different items, so each is put in front of all of them
    refine Walk.ImprovedBy.alike (visitItemsFrom_alike (fun child hchild => ?_) 0) ?_
      (visitItemsFrom_alike (fun child hchild => ?_) 0)
    · obtain ⟨e, _, he, _⟩ := hvisit child hchild
      exact he.alike_self
    · refine Improved.childRelation.inStep_both (improved_boundWalk hmost _) ?_
      exact Improved.childRelation.inStep_every (List.forall₂_same.mpr hvisit)
    · obtain ⟨_, e', _, he', _⟩ := hvisit child hchild
      exact he'.alike_self
  · by_cases hfew' : (children subject).length < least'
    · have hfew : (children subject).length < least := by omega
      rw [if_pos hfew, if_pos hfew']
      exact Walk.ImprovedBy.failed
    · rw [if_neg hfew']
      by_cases hfew : (children subject).length < least
      · rw [if_pos hfew]
        exact Walk.ImprovedBy.accepted ⟨_, .failed .all place subject _⟩
      · rw [if_neg hfew]
        exact Improved.childRelation.inStep_accepted

end Children

end Rulebook
