import Mathlib.Data.Multiset.AddSub
import Mathlib.Data.Option.NAry
import Rulebook.Proofs.Challenge.InStep

/-!
# Tallies

What a walk comes to in the mode that goes on behind failures, up to the order of its failures: its
verdict and the failures that it adds as a multiset, or nothing where it comes to no verdict. Steps that
all have to pass have one tally in every order.
-/

namespace Rulebook

open Json (Value)

/-- A verdict with failures in no order, or none. -/
abbrev Tally := Option (Bool × Multiset Failure)

/-- The tally of an effect. -/
def Effect.tally (e : Effect) : Tally :=
  match e.result with
  | .ok verdict => some (verdict, e.added)
  | .error _ => none

/-- Two verdicts that both have to be positive, with all failures. -/
def Tally.both : Tally → Tally → Tally :=
  Option.map₂ fun x y => (x.1 && y.1, x.2 + y.2)

instance : Std.Commutative Tally.both :=
  ⟨fun _ _ => Option.map₂_comm fun x y => by rw [Bool.and_comm, Multiset.add_comm]⟩

instance : Std.Associative Tally.both :=
  ⟨fun _ _ _ => Option.map₂_assoc fun x y z => by simp only [Bool.and_assoc, Multiset.add_assoc]⟩

namespace Effect

variable {a b c : Effect}

/-- The tally of two walks that both have to pass. -/
theorem tally_both : (both .all a b).tally = a.tally.both b.tally := by
  cases ha : a.result with
  | error e => simp [both, tally, Tally.both, ha]
  | ok x =>
    cases hb : b.result with
    | error e =>
      cases x <;> simp [both, tally, Tally.both, ha, hb, RecordMode.goesOn, Except.map]
    | ok y =>
      cases x <;> simp [both, tally, Tally.both, ha, hb, RecordMode.goesOn, Except.map]

/-- The tally of a walk with another one that stands in for it. -/
theorem tally_orElse :
    (a.orElse b).tally =
      match a.tally, b.tally with
      | none, _ => none
      | some (true, failures), _ => some (true, failures)
      | some (false, _), some (true, _) => some (true, 0)
      | some (false, failures), some (false, more) => some (false, failures + more)
      | some (false, _), none => none := by
  cases ha : a.result with
  | error e => simp [orElse, tally, ha]
  | ok x =>
    cases x with
    | true => simp [orElse, tally, ha]
    | false =>
      cases hb : b.result with
      | error e => simp [orElse, tally, ha, hb]
      | ok y => cases y <;> simp [orElse, tally, ha, hb, accepted]

/-- The tally of going on as the verdict of a walk says whose failures are dropped. -/
theorem tally_branch :
    (branch a b c).tally =
      match a.tally with
      | none => none
      | some (true, _) => b.tally
      | some (false, _) => c.tally := by
  cases ha : a.result with
  | error e => simp [branch, tally, ha]
  | ok x => cases x <;> simp [branch, tally, ha]

/-- Two effects have one tally. -/
def SameTally (e e' : Effect) : Prop := e.tally = e'.tally

/-- Effects of one tally come to one verdict and add the same failures. -/
theorem SameTally.perm {e e' : Effect} (h : SameTally e e') {verdict : Bool}
    (hresult : e.result = .ok verdict) :
    e'.result = .ok verdict ∧ e'.added.Perm e.added := by
  unfold SameTally tally at h
  rw [hresult] at h
  cases hother : e'.result with
  | error e => simp [hother] at h
  | ok x =>
    simp only [hother, Option.some.injEq, Prod.mk.injEq, Multiset.coe_eq_coe] at h
    exact ⟨by rw [h.1], h.2.symm⟩

/-- The steps of walks that go on behind failures keep tallies. -/
theorem SameTally.stepRelation : StepRelation .all SameTally where
  accepted := rfl
  both ha hb := by
    simp only [SameTally, tally_both] at ha hb ⊢
    rw [ha, hb]
  branch ha hb hc := by
    simp only [SameTally, tally_branch] at ha hb hc ⊢
    rw [ha, hb, hc]
  orElse ha hb := by
    simp only [SameTally, tally_orElse] at ha hb ⊢
    rw [ha, hb]

end Effect

/-- Two walks have effects of one tally. -/
def Walk.Alike (w w' : Walk Bool) : Prop := Walk.InStep Effect.SameTally w w'

namespace Walk

open Effect

variable {a b c : Walk Bool}

/-- A walk with an effect is like itself. -/
theorem HasEffect.alike_self {e : Effect} (h : a.HasEffect e) : a.Alike a :=
  ⟨e, e, h, h, rfl⟩

namespace Alike

theorem symm (h : a.Alike b) : b.Alike a := by
  obtain ⟨e, e', he, he', heq⟩ := h
  exact ⟨e', e, he', he, heq.symm⟩

theorem trans (h : a.Alike b) (h' : b.Alike c) : a.Alike c :=
  InStep.trans h h' fun hab hbc => Eq.trans hab hbc

/-- What is like another walk has an effect. -/
theorem left (h : a.Alike b) : a.Alike a := h.trans h.symm

/-- Pairs of walks that are alike. -/
theorem both {a' b' : Walk Bool} (ha : a.Alike a') (hb : b.Alike b') :
    (Walk.both .all a b).Alike (.both .all a' b') :=
  SameTally.stepRelation.inStep_both ha hb

/-- Of three walks that have to pass, the last two may be taken together, or the first two. -/
theorem both_assoc (ha : a.Alike a) (hb : b.Alike b) (hc : c.Alike c) :
    (Walk.both .all a (.both .all b c)).Alike (.both .all (.both .all a b) c) := by
  obtain ⟨ea, _, hea, _⟩ := ha
  obtain ⟨eb, _, heb, _⟩ := hb
  obtain ⟨ec, _, hec, _⟩ := hc
  refine ⟨_, _, hea.both (heb.both hec), (hea.both heb).both hec, ?_⟩
  simp only [SameTally, tally_both]
  ac_rfl

/-- Of three walks that have to pass, the first two may be taken in either order. -/
theorem both_left_comm (ha : a.Alike a) (hb : b.Alike b) (hc : c.Alike c) :
    (Walk.both .all a (.both .all b c)).Alike (.both .all b (.both .all a c)) := by
  obtain ⟨ea, _, hea, _⟩ := ha
  obtain ⟨eb, _, heb, _⟩ := hb
  obtain ⟨ec, _, hec, _⟩ := hc
  refine ⟨_, _, hea.both (heb.both hec), heb.both (hea.both hec), ?_⟩
  simp only [SameTally, tally_both]
  ac_rfl

/-- Steps over two lists, item by item. -/
theorem every {α β : Type} {step : α → Walk Bool} {step' : β → Walk Bool} {as : List α}
    {bs : List β} (h : List.Forall₂ (fun a b => (step a).Alike (step' b)) as bs) :
    (Walk.every .all step as).Alike (.every .all step' bs) :=
  SameTally.stepRelation.inStep_every h

/-- Steps over a list have one tally in every order. -/
theorem every_of_perm {α : Type} {step : α → Walk Bool} {list other : List α}
    (hperm : list.Perm other) (hstep : ∀ a ∈ list, (step a).Alike (step a)) :
    (Walk.every .all step list).Alike (.every .all step other) := by
  induction hperm with
  | nil => exact SameTally.stepRelation.inStep_accepted
  | cons a _ ih =>
    obtain ⟨ha, hrest⟩ := List.forall_mem_cons.mp hstep
    exact ha.both (ih hrest)
  | swap a b rest =>
    obtain ⟨hb, hothers⟩ := List.forall_mem_cons.mp hstep
    obtain ⟨ha, hrest⟩ := List.forall_mem_cons.mp hothers
    have hsteps : (Walk.every .all step rest).Alike (.every .all step rest) :=
      .every (List.forall₂_same.mpr hrest)
    exact both_left_comm hb ha hsteps
  | trans h _ ih ih' =>
    have hother := fun a ha => hstep a (h.mem_iff.mpr ha)
    exact (ih hstep).trans (ih' hother)

end Alike

end Walk

/-! ## Items and their number -/

/-- The failure of items beyond a bound, where so many items have so many in front of them. -/
def boundWalk (subject : Value) (place : Location) (most : Option Nat) (seen count : Nat) :
    Walk Bool :=
  match most with
  | some most =>
    if seen ≤ most ∧ most < seen + count then .fail .all place subject (.tooMany most)
    else pure true
  | none => pure true

section Items

open Effect Walk

variable {subject : Value} {place : Location} {most : Option Nat}

/-- Failures of one kind are alike for subjects that look alike in a report. -/
theorem fail_alike {other : Value} (h : Preview.of subject = Preview.of other)
    (kind : FailureKind) :
    (Walk.fail .all place subject kind).Alike (.fail .all place other kind) :=
  InStep.failed (by rw [h]; rfl)

/-- Bounds are alike for subjects that look alike in a report. -/
theorem boundWalk_alike {other : Value} (h : Preview.of subject = Preview.of other)
    (seen count : Nat) :
    (boundWalk subject place most seen count).Alike (boundWalk other place most seen count) := by
  cases most with
  | none => exact HasEffect.accepted.alike_self
  | some most =>
    by_cases hpassed : seen ≤ most ∧ most < seen + count
    · simp only [boundWalk, if_pos hpassed]
      exact fail_alike h (.tooMany most)
    · simp only [boundWalk, if_neg hpassed]
      exact HasEffect.accepted.alike_self

/-- No items are beyond no bound. -/
theorem boundWalk_zero (seen : Nat) : boundWalk subject place most seen 0 = pure true := by
  cases most with
  | none => rfl
  | some most => exact if_neg (by omega)

/-- One item is beyond a bound if as many are in front of it. -/
theorem boundWalk_one (seen : Nat) :
    boundWalk subject place most seen 1 =
      match most with
      | some most =>
        if seen = most then .fail .all place subject (.tooMany most) else pure true
      | none => pure true := by
  cases most with
  | none => rfl
  | some most =>
    have hfirst : (seen ≤ most ∧ most < seen + 1) = (seen = most) := by
      rw [eq_iff_iff]
      omega
    simp only [boundWalk, hfirst]

/-- A bound is passed at most once, be it among the first items or among the others. -/
theorem boundWalk_add (seen count more : Nat) :
    (Walk.both .all (boundWalk subject place most seen count)
      (boundWalk subject place most (seen + count) more)).Alike
      (boundWalk subject place most seen (count + more)) := by
  have haccepted := HasEffect.accepted
  cases most with
  | none => exact ⟨_, _, haccepted.both haccepted, haccepted, rfl⟩
  | some most =>
    have hfailed := HasEffect.failed .all place subject (.tooMany most)
    simp only [boundWalk]
    by_cases hfirst : seen ≤ most ∧ most < seen + count
    · have hlater : ¬(seen + count ≤ most ∧ most < seen + count + more) := by omega
      have hany : seen ≤ most ∧ most < seen + (count + more) := by omega
      rw [if_pos hfirst, if_neg hlater, if_pos hany]
      exact ⟨_, _, hfailed.both haccepted, hfailed, rfl⟩
    · rw [if_neg hfirst]
      by_cases hlater : seen + count ≤ most ∧ most < seen + count + more
      · have hany : seen ≤ most ∧ most < seen + (count + more) := by omega
        rw [if_pos hlater, if_pos hany]
        exact ⟨_, _, haccepted.both hfailed, hfailed, rfl⟩
      · have hany : ¬(seen ≤ most ∧ most < seen + (count + more)) := by omega
        rw [if_neg hlater, if_neg hany]
        exact ⟨_, _, haccepted.both haccepted, haccepted, rfl⟩

/-- Items are like their number and each of them, wherever among them the bound is passed. -/
theorem visitItemsFrom_alike {visit : Visit} {kind : ContainerKind} {items : List (String × Value)}
    (hvisit : ∀ child ∈ items, (visit child.2 (place.child kind child.1)).Alike
      (visit child.2 (place.child kind child.1))) (seen : Nat) :
    (visitItemsFrom .all subject place most visit kind seen items).Alike
      (.both .all (boundWalk subject place most seen items.length)
        (.every .all (fun child => visit child.2 (place.child kind child.1)) items)) := by
  induction items generalizing seen with
  | nil =>
    rw [List.length_nil, boundWalk_zero]
    exact ⟨_, _, .accepted, HasEffect.accepted.both .accepted, rfl⟩
  | cons child rest ih =>
    obtain ⟨hchild, hrest⟩ := List.forall_mem_cons.mp hvisit
    have hevery := Alike.every (List.forall₂_same.mpr hrest)
    have hfirst : (boundWalk subject place most seen 1).Alike
        (boundWalk subject place most seen 1) :=
      boundWalk_alike rfl seen 1
    have hbound : (boundWalk subject place most (seen + 1) rest.length).Alike
        (boundWalk subject place most (seen + 1) rest.length) :=
      boundWalk_alike rfl (seen + 1) rest.length
    have hadd : (Walk.both .all (boundWalk subject place most seen 1)
        (boundWalk subject place most (seen + 1) rest.length)).Alike
        (boundWalk subject place most seen (rest.length + 1)) := by
      rw [Nat.add_comm rest.length]
      exact boundWalk_add seen 1 rest.length
    have hcons : visitItemsFrom .all subject place most visit kind seen (child :: rest) =
        .both .all (boundWalk subject place most seen 1)
          (.both .all (visit child.2 (place.child kind child.1))
            (visitItemsFrom .all subject place most visit kind (seen + 1) rest)) := by
      rw [boundWalk_one]
      rfl
    rw [hcons]
    -- the bound of the rest moves in front of the first item, to the bound of that item
    refine (hfirst.both (hchild.both (ih hrest (seen + 1)))).trans ?_
    refine (hfirst.both (Alike.both_left_comm hchild hbound hevery)).trans ?_
    refine (Alike.both_assoc hfirst hbound (hchild.both hevery)).trans ?_
    exact hadd.both (hchild.both hevery)

end Items

end Rulebook
