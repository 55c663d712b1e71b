import Rulebook.Challenge.Challenger
import Rulebook.Proofs.Challenge.Visit

/-!
# The record and the verdict

The record tells the verdict. In the modes that record, a subject that passes leaves no failure and
one that fails leaves at least one, however deep fallbacks and tables with a list behind them are
nested. A mode that does not record leaves none even where an error ends the walk.
-/

namespace Rulebook

open Json (Value)

/-- The failures of an effect tell its verdict. -/
structure Effect.TellsVerdict (mode : RecordMode) (e : Effect) : Prop where
  silent : mode = .off → e.added = []
  passed : e.result = .ok true → e.added = []
  failed : mode ≠ .off → e.result = .ok false → e.added ≠ []

namespace Effect.TellsVerdict

variable {mode : RecordMode} {a b c : Effect}

/-- A failure is added in every mode that records. -/
theorem of_failed (mode : RecordMode) (f : Failure) : TellsVerdict mode (.failed mode f) := by
  cases mode <;> constructor <;> simp [Effect.failed, RecordMode.records]

/-- Two walks that both have to pass tell the verdict if each of them does. -/
theorem both (ha : TellsVerdict mode a) (hb : TellsVerdict mode b) :
    TellsVerdict mode (.both mode a b) := by
  cases hresult : a.result with
  | error e =>
    simpa only [Effect.both, hresult] using ha
  | ok verdict =>
    cases verdict with
    | true =>
      have hadded := ha.passed hresult
      simpa only [Effect.both, hresult, hadded, List.nil_append] using hb
    | false =>
      cases hmode : mode.goesOn with
      | false =>
        simpa only [Effect.both, hresult, hmode, Bool.false_eq_true, if_false] using ha
      | true =>
        have hrecords : mode ≠ .off := by
          rintro rfl
          simp [RecordMode.goesOn] at hmode
        have hadded := ha.failed hrecords hresult
        simp only [Effect.both, hresult, hmode, if_true]
        refine ⟨fun h => absurd h hrecords, fun h => ?_, fun _ _ => ?_⟩
        · cases hother : b.result <;> simp [hother, Except.map] at h
        · simp [hadded]

/-- A fallback tells the verdict if what follows it does. Its own failures are seen only when it
comes to no verdict. -/
theorem branch (ha : TellsVerdict mode a) (hb : TellsVerdict mode b)
    (hc : TellsVerdict mode c) : TellsVerdict mode (.branch a b c) := by
  cases hresult : a.result with
  | error e => simpa only [Effect.branch, hresult] using ha
  | ok verdict =>
    cases verdict with
    | true => simpa only [Effect.branch, hresult] using hb
    | false => simpa only [Effect.branch, hresult] using hc

/-- A walk with another one that stands in for it tells the verdict if both do. -/
theorem orElse (ha : TellsVerdict mode a) (hb : TellsVerdict mode b) :
    TellsVerdict mode (a.orElse b) := by
  cases hresult : a.result with
  | error e => simpa only [Effect.orElse, hresult] using ha
  | ok verdict =>
    cases verdict with
    | true => simpa only [Effect.orElse, hresult] using ha
    | false =>
      have hsilent (h : mode = .off) : a.added ++ b.added = [] := by
        rw [ha.silent h, hb.silent h, List.append_nil]
      have hadded (h : mode ≠ .off) : a.added ++ b.added ≠ [] := by
        simp [ha.failed h hresult]
      cases hother : b.result with
      | error e =>
        simp only [Effect.orElse, hresult, hother]
        exact ⟨hsilent, by simp, fun h _ => hadded h⟩
      | ok other =>
        cases other with
        | false =>
          simp only [Effect.orElse, hresult, hother]
          exact ⟨hsilent, by simp, fun h _ => hadded h⟩
        | true =>
          simp only [Effect.orElse, hresult, hother, Effect.accepted]
          exact ⟨fun _ => rfl, fun _ => rfl, by simp⟩

/-- All steps of a walk tell the verdict. -/
theorem stepInvariant : StepInvariant fun effects => ∀ mode, TellsVerdict mode (effects mode) where
  accepted _ := ⟨fun _ => rfl, fun _ => rfl, by simp [Effect.accepted]⟩
  aborted _ _ := ⟨fun _ => rfl, fun _ => rfl, by simp [Effect.aborted]⟩
  failed f mode := of_failed mode f
  both ha hb mode := (ha mode).both (hb mode)
  branch ha hb hc mode := (ha mode).branch (hb mode) (hc mode)
  orElse ha hb mode := (ha mode).orElse (hb mode)

end Effect.TellsVerdict

/-- The walk of a ruleset over a subject has an effect, and its failures tell the verdict. -/
theorem Ruleset.visit_hasEffect (p : Provider) (mode : RecordMode) (r : Ruleset)
    (subject : Value) (place : Location) :
    ∃ e, (r.visit p mode subject place).HasEffect e ∧ e.TellsVerdict mode := by
  obtain ⟨effects, heffects, htell⟩ :=
    Effect.TellsVerdict.stepInvariant.hasEffects_visit p r subject place
  exact ⟨effects mode, heffects mode, htell mode⟩

/-- The walk of any ruleset, at any place and in any mode, comes to one result and adds one list of
failures whatever the record was; nothing is added when the mode does not record, nothing by a
subject that passes, and something by a subject that fails in a mode that records. So a challenge in
a mode that records leaves an empty record if the subject passes and a failure if it does not,
whatever the record of the challenge before. -/
theorem Ruleset.record_tells_verdict (p : Provider) (r : Ruleset) (subject : Value) :
    (∀ mode place, ∃ result added,
      (∀ record, ExceptT.run (r.visit p mode subject place) record =
        (result, record ++ added)) ∧
      (mode = .off → added = []) ∧
      (mode ≠ .off → result = .ok true → added = []) ∧
      (mode ≠ .off → result = .ok false → added ≠ [])) ∧
    ∀ mode record keyPath, mode ≠ .off →
      let (result, after) := Challenger.challenge ⟨p, mode, record⟩ subject r keyPath
      (result = .ok true → after.record = []) ∧ (result = .ok false → after.record ≠ []) := by
  constructor
  · intro mode place
    obtain ⟨e, heffect, htell⟩ := r.visit_hasEffect p mode subject place
    exact ⟨e.result, e.added, heffect, htell.silent, fun _ => htell.passed, htell.failed⟩
  · intro mode record keyPath hmode
    obtain ⟨e, heffect, htell⟩ := r.visit_hasEffect p mode subject ⟨0, keyPath⟩
    have hchallenge : r.challenge p mode subject keyPath = ⟨e.result, e.added⟩ := by
      rw [Ruleset.challenge, heffect, List.nil_append]
    simp only [Challenger.challenge, hchallenge]
    exact ⟨htell.passed, htell.failed hmode⟩

end Rulebook
