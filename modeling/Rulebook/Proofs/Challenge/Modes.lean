import Rulebook.Challenge.Challenger
import Rulebook.Proofs.Challenge.Visit

/-!
# The mode and the verdict

The record mode decides what is recorded and how far a walk goes, and never what it comes to. A walk
that goes on behind failures looks at more of the subject, so it may meet an error that the other
walks do not; where it comes to a verdict, they come to the same.
-/

namespace Rulebook

open Json (Value)

/-- The modes that stop at a failure come to one result, and to the verdict of the mode that goes on
if that has one. -/
structure SameVerdict (effects : RecordMode → Effect) : Prop where
  first : (effects .first).result = (effects .off).result
  all : ∀ verdict, (effects .all).result = .ok verdict → (effects .off).result = .ok verdict

namespace SameVerdict

variable {a b c : RecordMode → Effect}

/-- Two walks that both have to pass come to one verdict in all modes if each of them does. -/
theorem both (ha : SameVerdict a) (hb : SameVerdict b) :
    SameVerdict fun mode => .both mode (a mode) (b mode) := by
  constructor
  · rw [Effect.result_both_of_stops rfl, Effect.result_both_of_stops rfl, ha.first, hb.first]
  · intro verdict h
    obtain ⟨x, y, hx, hy, rfl⟩ := (Effect.result_both_of_goesOn rfl).mp h
    rw [Effect.result_both_of_stops rfl, ha.all x hx, hb.all y hy]
    cases x <;> rfl

/-- A fallback and what follows it come to one verdict in all modes if each of them does. -/
theorem branch (ha : SameVerdict a) (hb : SameVerdict b) (hc : SameVerdict c) :
    SameVerdict fun mode => .branch (a mode) (b mode) (c mode) := by
  constructor
  · rw [Effect.result_branch, Effect.result_branch, ha.first, hb.first, hc.first]
  · intro verdict h
    rw [Effect.result_branch] at h ⊢
    cases hall : (a .all).result with
    | error e =>
      rw [hall] at h
      cases h
    | ok x =>
      rw [hall] at h
      rw [ha.all x hall]
      cases x with
      | true => exact hb.all verdict h
      | false => exact hc.all verdict h

/-- A walk and another one that stands in for it come to one verdict in all modes if both do. -/
theorem orElse (ha : SameVerdict a) (hb : SameVerdict b) :
    SameVerdict fun mode => (a mode).orElse (b mode) := by
  constructor
  · rw [Effect.result_orElse, Effect.result_orElse, ha.first, hb.first]
  · intro verdict h
    rw [Effect.result_orElse] at h ⊢
    cases hall : (a .all).result with
    | error e =>
      rw [hall] at h
      cases h
    | ok x =>
      rw [hall] at h
      rw [ha.all x hall]
      cases x with
      | true => exact h
      | false => exact hb.all verdict h

/-- All steps of a walk come to one verdict in all modes. -/
theorem stepInvariant : StepInvariant SameVerdict where
  accepted := ⟨rfl, fun _ h => h⟩
  aborted _ := ⟨rfl, fun _ h => h⟩
  failed _ := ⟨rfl, fun _ h => h⟩
  both := both
  branch := branch
  orElse := orElse

/-- A verdict of the mode that goes on is that of every mode. -/
theorem of_all (h : SameVerdict a) {verdict : Bool} (hall : (a .all).result = .ok verdict)
    (mode : RecordMode) : (a mode).result = .ok verdict := by
  have hoff := h.all verdict hall
  cases mode with
  | off => exact hoff
  | first => exact h.first.trans hoff
  | all => exact hall

end SameVerdict

/-- The record mode never changes a verdict. The two modes that stop at a failure come to one
result, be it a verdict or an error. Where the mode that goes on comes to a verdict, they come to
the same; where they come to an error, so does it. -/
theorem Ruleset.challenge_result_of_mode (p : Provider) (r : Ruleset) (subject : Value)
    (keyPath : String) :
    (r.challenge p .first subject keyPath).result = (r.challenge p .off subject keyPath).result ∧
    (∀ verdict, (r.challenge p .all subject keyPath).result = .ok verdict →
      (r.challenge p .off subject keyPath).result = .ok verdict ∧
      (r.challenge p .first subject keyPath).result = .ok verdict) ∧
    ∀ e, (r.challenge p .off subject keyPath).result = .error e →
      ∃ other, (r.challenge p .all subject keyPath).result = .error other := by
  obtain ⟨effects, heffects, hsame⟩ :=
    SameVerdict.stepInvariant.hasEffects_visit p r subject ⟨0, keyPath⟩
  have hresult (mode : RecordMode) :
      (r.challenge p mode subject keyPath).result = (effects mode).result := by
    rw [Ruleset.challenge, heffects mode []]
  simp only [hresult]
  refine ⟨hsame.first, fun verdict h => ?_, fun e h => ?_⟩
  · have hoff := hsame.all verdict h
    exact ⟨hoff, hsame.first.trans hoff⟩
  · cases hall : (effects .all).result with
    | error other => exact ⟨other, rfl⟩
    | ok verdict =>
      have hoff := hsame.all verdict hall
      rw [h] at hoff
      cases hoff

end Rulebook
