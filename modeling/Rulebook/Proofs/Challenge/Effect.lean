import Rulebook.Challenge.Record

/-!
# Effects of walks

A walk over a subject neither looks at the record that it is given nor takes anything out of it. It
comes to a result and adds failures, and both are the same whatever the record was: they are its
effect. The steps that put walks together act on effects alone.
-/

namespace Rulebook

/-- A result stays where errors are changed. -/
@[simp]
theorem mapError_ok {ε ε' α : Type} (g : ε → ε') (a : α) :
    Except.mapError g (.ok a) = .ok a := rfl

/-- An error changes. -/
@[simp]
theorem mapError_error {ε ε' α : Type} (g : ε → ε') (e : ε) :
    Except.mapError g (.error e : Except ε α) = .error (g e) := rfl

/-- What a walk comes to, and the failures that it adds to the record. -/
structure Effect where
  result : Except ChallengeError Bool
  added : List Failure

namespace Effect

/-- A positive verdict. -/
def accepted : Effect := ⟨.ok true, []⟩

/-- No verdict. -/
def aborted (e : ChallengeError) : Effect := ⟨.error e, []⟩

/-- A negative verdict because of one failure, which is added if the mode wants it. -/
def failed (mode : RecordMode) (f : Failure) : Effect :=
  ⟨.ok false, if mode.records then [f] else []⟩

/-- The effect of two walks that both have to come to a positive verdict. -/
def both (mode : RecordMode) (a b : Effect) : Effect :=
  match a.result with
  | .error _ => a
  | .ok true => ⟨b.result, a.added ++ b.added⟩
  | .ok false =>
    if mode.goesOn then ⟨b.result.map fun _ => false, a.added ++ b.added⟩ else a

/-- The effect of a walk with another one that stands in for it. -/
def orElse (a b : Effect) : Effect :=
  match a.result, b.result with
  | .ok false, .ok true => accepted
  | .ok false, _ => ⟨b.result, a.added ++ b.added⟩
  | _, _ => a

/-- The effect of going on as the verdict of a walk says whose failures are dropped. -/
def branch (a b c : Effect) : Effect :=
  match a.result with
  | .error _ => a
  | .ok true => b
  | .ok false => c

variable {mode : RecordMode} {a b c : Effect} {verdict : Bool}

/-- The result of two walks that both have to pass, in a mode that stops at a failure. -/
theorem result_both_of_stops (hmode : mode.goesOn = false) :
    (both mode a b).result =
      match a.result with
      | .ok true => b.result
      | result => result := by
  cases hresult : a.result with
  | error e => simp only [both, hresult]
  | ok verdict => cases verdict <;> simp [both, hresult, hmode]

/-- In a mode that goes on, two walks that both have to pass come to a verdict only if each does. -/
theorem result_both_of_goesOn (hmode : mode.goesOn = true) :
    (both mode a b).result = .ok verdict ↔
      ∃ x y, a.result = .ok x ∧ b.result = .ok y ∧ verdict = (x && y) := by
  cases hresult : a.result with
  | error e => simp [both, hresult]
  | ok x =>
    cases x with
    | true => cases verdict <;> simp [both, hresult]
    | false => cases hother : b.result <;> simp [both, hresult, hother, hmode, Except.map, eq_comm]

/-- The result of a walk with another one that stands in for it. -/
theorem result_orElse :
    (a.orElse b).result =
      match a.result with
      | .ok false => b.result
      | result => result := by
  cases hresult : a.result with
  | error e => simp only [orElse, hresult]
  | ok x =>
    cases x with
    | true => simp only [orElse, hresult]
    | false =>
      cases hother : b.result with
      | error e => simp only [orElse, hresult, hother]
      | ok y => cases y <;> simp [orElse, hresult, hother, accepted]

/-- The result of going on as the verdict of a walk says. -/
theorem result_branch :
    (branch a b c).result =
      match a.result with
      | .error e => .error e
      | .ok true => b.result
      | .ok false => c.result := by
  cases hresult : a.result with
  | error e => simp only [branch, hresult]
  | ok x => cases x <;> simp only [branch, hresult]

/-- Where a first walk fails, both do not pass in any mode, if the second one comes to a verdict. -/
theorem result_both_of_false {other : Bool} (ha : a.result = .ok false)
    (hb : b.result = .ok other) : (both mode a b).result = .ok false := by
  cases hmode : mode.goesOn <;> simp [both, ha, hb, hmode, Except.map]

/-! ### Maps

The steps of walks commute with a change of errors and of failures.
-/

/-- The effect with another error and other failures. -/
def map (g : ChallengeError → ChallengeError) (f : Failure → Failure) (e : Effect) : Effect :=
  ⟨e.result.mapError g, e.added.map f⟩

section Map

variable (g : ChallengeError → ChallengeError) (f : Failure → Failure)

theorem map_accepted : accepted.map g f = accepted := rfl

theorem map_failed (failure : Failure) :
    (failed mode failure).map g f = failed mode (f failure) := by
  cases hmode : mode.records <;> simp [map, failed, hmode]

theorem map_both : (both mode a b).map g f = both mode (a.map g f) (b.map g f) := by
  cases ha : a.result with
  | error e => simp [both, map, ha]
  | ok x =>
    cases x with
    | true => simp [both, map, ha]
    | false =>
      cases hmode : mode.goesOn with
      | false => simp [both, map, ha, hmode]
      | true =>
        cases hb : b.result <;> simp [both, map, ha, hb, hmode, Except.map]

theorem map_orElse : (a.orElse b).map g f = (a.map g f).orElse (b.map g f) := by
  cases ha : a.result with
  | error e => simp [orElse, map, ha]
  | ok x =>
    cases x with
    | true => simp [orElse, map, ha]
    | false =>
      cases hb : b.result with
      | error e => simp [orElse, map, ha, hb]
      | ok y => cases y <;> simp [orElse, map, ha, hb, accepted]

theorem map_branch : (branch a b c).map g f = branch (a.map g f) (b.map g f) (c.map g f) := by
  cases ha : a.result with
  | error e => simp [branch, map, ha]
  | ok x => cases x <;> simp [branch, map, ha]

end Map

end Effect

/-- A walk has an effect if it comes to the result and adds the failures, whatever the record. -/
def Walk.HasEffect (w : Walk Bool) (effect : Effect) : Prop :=
  ∀ record, ExceptT.run w record = (effect.result, record ++ effect.added)

namespace Walk

variable {α : Type} {mode : RecordMode} {w : Walk α} {before after : List Failure}

/-- Behind a walk with a value the next one is made. -/
theorem run_bind_of_ok {a : α} (h : ExceptT.run w before = (.ok a, after))
    (next : α → Walk Bool) : ExceptT.run (w >>= next) before = ExceptT.run (next a) after := by
  change ExceptT.bindCont next (ExceptT.run w before).1 (ExceptT.run w before).2 = _
  rw [h]
  rfl

/-- Behind a walk without a value there is no next one. -/
theorem run_bind_of_error {e : ChallengeError} (h : ExceptT.run w before = (.error e, after))
    (next : α → Walk Bool) : ExceptT.run (w >>= next) before = (.error e, after) := by
  change ExceptT.bindCont next (ExceptT.run w before).1 (ExceptT.run w before).2 = _
  rw [h]
  rfl

namespace HasEffect

variable {a b c : Walk Bool} {ea eb ec : Effect}

/-- The effect of a positive verdict. -/
theorem accepted : HasEffect (pure true) .accepted := by
  intro record
  simp only [Effect.accepted, List.append_nil]
  rfl

/-- The effect of a walk that comes to no verdict. -/
theorem aborted (e : ChallengeError) : HasEffect (throw e) (.aborted e) := by
  intro record
  simp only [Effect.aborted, List.append_nil]
  rfl

/-- The effect of a failure. -/
theorem failed (mode : RecordMode) (place : Location) (subject : Json.Value)
    (kind : FailureKind) :
    HasEffect (.fail mode place subject kind)
      (.failed mode ⟨place, kind, Preview.of subject⟩) := by
  intro record
  cases h : mode.records with
  | false =>
    simp only [Effect.failed, Walk.fail, h, Bool.false_eq_true, if_false, List.append_nil]
    rfl
  | true =>
    simp only [Effect.failed, Walk.fail, h, if_true]
    rfl

/-- The effect of two walks that both have to come to a positive verdict. -/
theorem both (ha : a.HasEffect ea) (hb : b.HasEffect eb) :
    HasEffect (.both mode a b) (.both mode ea eb) := by
  intro record
  cases hresult : ea.result with
  | error e =>
    have hrun := ha record
    rw [hresult] at hrun
    simp only [Walk.both, Effect.both, hresult]
    exact run_bind_of_error hrun _
  | ok verdict =>
    have hrun := ha record
    rw [hresult] at hrun
    cases verdict with
    | true =>
      simp only [Walk.both, Effect.both, hresult]
      rw [run_bind_of_ok hrun, if_pos rfl, hb, List.append_assoc]
    | false =>
      simp only [Walk.both, Effect.both, hresult]
      rw [run_bind_of_ok hrun, if_neg Bool.false_ne_true]
      cases hmode : mode.goesOn with
      | false =>
        simp only [Bool.false_eq_true, if_false, hresult]
        rfl
      | true =>
        simp only [if_true]
        have hnext := hb (record ++ ea.added)
        cases hother : eb.result with
        | error e =>
          rw [hother] at hnext
          rw [run_bind_of_error hnext, List.append_assoc]
          rfl
        | ok other =>
          rw [hother] at hnext
          rw [run_bind_of_ok hnext, List.append_assoc]
          rfl

/-- The effect of a walk whose failures are dropped whatever its verdict. -/
theorem branch (ha : a.HasEffect ea) (hb : b.HasEffect eb) (hc : c.HasEffect ec) :
    HasEffect (do if ← a.unrecorded then b else c) (.branch ea eb ec) := by
  intro record
  have hrun := ha record
  have hmark : ExceptT.run Walk.mark record = (.ok record.length, record) := rfl
  cases hresult : ea.result with
  | error e =>
    rw [hresult] at hrun
    have halternative : ExceptT.run a.unrecorded record = (.error e, record ++ ea.added) := by
      rw [Walk.unrecorded, run_bind_of_ok hmark, run_bind_of_error hrun]
    simp only [Effect.branch, hresult]
    exact run_bind_of_error halternative _
  | ok verdict =>
    rw [hresult] at hrun
    have halternative : ExceptT.run a.unrecorded record = (.ok verdict, record) := by
      rw [Walk.unrecorded, run_bind_of_ok hmark, run_bind_of_ok hrun]
      have hback : ExceptT.run (Walk.backTo record.length) (record ++ ea.added) =
          (.ok (), record) := by
        change (Except.ok (), (record ++ ea.added).take record.length) = _
        rw [List.take_left]
      rw [run_bind_of_ok hback]
      rfl
    rw [run_bind_of_ok halternative]
    cases verdict with
    | true =>
      simp only [Effect.branch, hresult, if_true]
      exact hb record
    | false =>
      simp only [Effect.branch, hresult, Bool.false_eq_true, if_false]
      exact hc record

/-- The effect of a walk with another one that stands in for it. -/
theorem orElse (ha : a.HasEffect ea) (hb : b.HasEffect eb) :
    HasEffect (a.orElse b) (ea.orElse eb) := by
  intro record
  have hrun := ha record
  have hmark : ExceptT.run Walk.mark record = (.ok record.length, record) := rfl
  rw [Walk.orElse, run_bind_of_ok hmark]
  cases hresult : ea.result with
  | error e =>
    rw [hresult] at hrun
    simp only [Effect.orElse, hresult]
    exact run_bind_of_error hrun _
  | ok verdict =>
    rw [hresult] at hrun
    rw [run_bind_of_ok hrun]
    cases verdict with
    | true =>
      simp only [Effect.orElse, hresult, if_true]
      rfl
    | false =>
      have hnext := hb (record ++ ea.added)
      rw [if_neg Bool.false_ne_true]
      cases hother : eb.result with
      | error e =>
        rw [hother] at hnext
        simp only [Effect.orElse, hresult, hother]
        rw [run_bind_of_error hnext, List.append_assoc]
      | ok other =>
        rw [hother] at hnext
        rw [run_bind_of_ok hnext]
        cases other with
        | false =>
          simp only [Effect.orElse, hresult, hother]
          rw [List.append_assoc]
          rfl
        | true =>
          simp only [Effect.orElse, hresult, hother, Effect.accepted]
          change (Except.ok true, (record ++ ea.added ++ eb.added).take record.length) = _
          rw [List.append_assoc, List.take_left, List.append_nil]

end HasEffect

end Walk

end Rulebook
