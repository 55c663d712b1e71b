import Mathlib.Data.List.Basic
import Rulebook.Proofs.Challenge.Acceptance
import Rulebook.Proofs.Challenge.Modes
import Rulebook.Proofs.Challenge.Recording

/-!
# The first failure

The record of a walk that stops at the first failure is cut out of the record of the walk that goes
on, and both begin with the same failure. It holds nothing else, unless a list stands in for a table
somewhere: then what was wrong with the table is in front of what is wrong with the list.
-/

namespace Rulebook

open Json (Value)

/-! ## Cuts -/

/-- A record is a part of another one, in its order, and begins as that one does. -/
structure IsCutOf (short long : List Failure) : Prop where
  sublist : short.Sublist long
  head : short.head? = long.head?

namespace IsCutOf

variable {short long other more : List Failure}

/-- Every record is cut out of itself. -/
theorem refl (record : List Failure) : IsCutOf record record := ⟨.refl _, rfl⟩

/-- Behind failures more may be recorded. -/
theorem append_right (h : IsCutOf short long) (hne : long ≠ []) (more : List Failure) :
    IsCutOf short (long ++ more) where
  sublist := h.sublist.trans (List.sublist_append_left _ _)
  head := by rw [List.head?_append_of_ne_nil _ hne, h.head]

/-- Behind failures other failures may be recorded on both sides. -/
theorem append (h : IsCutOf short long) (hshort : short ≠ []) (hlong : long ≠ [])
    (hmore : IsCutOf other more) : IsCutOf (short ++ other) (long ++ more) where
  sublist := h.sublist.append hmore.sublist
  head := by
    rw [List.head?_append_of_ne_nil _ hshort, List.head?_append_of_ne_nil _ hlong, h.head]

end IsCutOf

/-- Where the mode that goes on comes to a verdict, the record of the mode that stops at the first
failure is cut out of its record. -/
structure CutsRecord (effects : RecordMode → Effect) : Prop where
  same : SameVerdict effects
  tells : ∀ mode, (effects mode).TellsVerdict mode
  cut : ∀ verdict, (effects .all).result = .ok verdict →
    IsCutOf (effects .first).added (effects .all).added

namespace CutsRecord

variable {a b c : RecordMode → Effect} {verdict : Bool}

/-- The mode that stops at the first failure comes to the verdict of the mode that goes on. -/
theorem result_first (ha : CutsRecord a) (h : (a .all).result = .ok verdict) :
    (a .first).result = .ok verdict :=
  ha.same.first.trans (ha.same.all verdict h)

/-- Two walks that both have to pass: behind a failure of the first one, only the mode that goes on
records what the second one finds. -/
theorem both (ha : CutsRecord a) (hb : CutsRecord b) :
    CutsRecord fun mode => .both mode (a mode) (b mode) where
  same := ha.same.both hb.same
  tells mode := (ha.tells mode).both (hb.tells mode)
  cut verdict h := by
    obtain ⟨x, y, hx, hy, -⟩ := (Effect.result_both_of_goesOn rfl).mp h
    have hfirst := ha.result_first hx
    cases x with
    | true =>
      have hall : (a .all).added = [] := (ha.tells .all).passed hx
      have hnone : (a .first).added = [] := (ha.tells .first).passed hfirst
      simpa only [Effect.both, hx, hfirst, hall, hnone, List.nil_append] using hb.cut y hy
    | false =>
      have hne := (ha.tells .all).failed (by simp) hx
      simp only [Effect.both, hx, hfirst, RecordMode.goesOn, if_true, Bool.false_eq_true, if_false]
      exact (ha.cut false hx).append_right hne _

/-- A fallback and what follows it: nothing of the fallback is recorded in either mode. -/
theorem branch (ha : CutsRecord a) (hb : CutsRecord b) (hc : CutsRecord c) :
    CutsRecord fun mode => .branch (a mode) (b mode) (c mode) where
  same := ha.same.branch hb.same hc.same
  tells mode := (ha.tells mode).branch (hb.tells mode) (hc.tells mode)
  cut verdict h := by
    rw [Effect.result_branch] at h
    cases hall : (a .all).result with
    | error e =>
      rw [hall] at h
      cases h
    | ok x =>
      rw [hall] at h
      have hfirst := ha.result_first hall
      cases x with
      | true => simpa only [Effect.branch, hall, hfirst] using hb.cut verdict h
      | false => simpa only [Effect.branch, hall, hfirst] using hc.cut verdict h

/-- A walk and another one that stands in for it: if both fail, each mode records what it has found
in the first one in front of what it finds in the second one. -/
theorem orElse (ha : CutsRecord a) (hb : CutsRecord b) :
    CutsRecord fun mode => (a mode).orElse (b mode) where
  same := ha.same.orElse hb.same
  tells mode := (ha.tells mode).orElse (hb.tells mode)
  cut verdict h := by
    rw [Effect.result_orElse] at h
    cases hx : (a .all).result with
    | error e =>
      rw [hx] at h
      cases h
    | ok x =>
      rw [hx] at h
      have hfirst := ha.result_first hx
      cases x with
      | true => simpa only [Effect.orElse, hx, hfirst] using ha.cut true hx
      | false =>
        have hsecond := hb.result_first h
        cases verdict with
        | true =>
          simp only [Effect.orElse, hx, hfirst, h, hsecond]
          exact .refl _
        | false =>
          have hne := (ha.tells .all).failed (by simp) hx
          have hnefirst := (ha.tells .first).failed (by simp) hfirst
          simp only [Effect.orElse, hx, hfirst, h, hsecond]
          exact (ha.cut false hx).append hnefirst hne (hb.cut false h)

/-- All steps of a walk cut the record of the mode that stops out of that of the mode that goes on. -/
theorem stepInvariant : StepInvariant CutsRecord where
  accepted := ⟨SameVerdict.stepInvariant.accepted, Effect.TellsVerdict.stepInvariant.accepted,
    fun _ _ => .refl _⟩
  aborted e := ⟨SameVerdict.stepInvariant.aborted e, Effect.TellsVerdict.stepInvariant.aborted e,
    fun _ _ => .refl _⟩
  failed f := ⟨SameVerdict.stepInvariant.failed f, Effect.TellsVerdict.stepInvariant.failed f,
    fun _ _ => .refl _⟩
  both := both
  branch := branch
  orElse := orElse

end CutsRecord

/-! ## Single failures -/

/-- The mode that stops at the first failure records no more than one, and none for a subject that
passes. -/
structure RecordsOne (effects : RecordMode → Effect) : Prop where
  passed : (effects .first).result = .ok true → (effects .first).added = []
  length_le : (effects .first).added.length ≤ 1

/-- As long as no list stands in for a table, no step of a walk that stops at the first failure
records another one. -/
theorem RecordsOne.basicInvariant : BasicInvariant RecordsOne where
  accepted := ⟨fun _ => rfl, by simp [Effect.accepted]⟩
  aborted e := ⟨fun _ => rfl, by simp [Effect.aborted]⟩
  failed f := ⟨by simp [Effect.failed], by simp [Effect.failed, RecordMode.records]⟩
  both := by
    intro a b ha hb
    cases hresult : (a .first).result with
    | error e => exact ⟨by simp [Effect.both, hresult], by simpa [Effect.both, hresult] using ha.2⟩
    | ok verdict =>
      cases verdict with
      | true =>
        have hadded := ha.passed hresult
        constructor
        · simpa [Effect.both, hresult, hadded] using hb.passed
        · simpa [Effect.both, hresult, hadded] using hb.length_le
      | false =>
        constructor
        · simp [Effect.both, hresult, RecordMode.goesOn]
        · simpa [Effect.both, hresult, RecordMode.goesOn] using ha.length_le
  branch := by
    intro a b c ha hb hc
    cases hresult : (a .first).result with
    | error e =>
      exact ⟨by simp [Effect.branch, hresult], by simpa [Effect.branch, hresult] using ha.2⟩
    | ok verdict =>
      cases verdict with
      | true => exact ⟨by simpa [Effect.branch, hresult] using hb.passed,
          by simpa [Effect.branch, hresult] using hb.length_le⟩
      | false => exact ⟨by simpa [Effect.branch, hresult] using hc.passed,
          by simpa [Effect.branch, hresult] using hc.length_le⟩

/-! ## Challenges -/

namespace Ruleset

/-- Where no list stands in for a table, a challenge that stops at the first failure records no more
than one. -/
theorem length_first_record_le_one (p : Provider) {r : Ruleset}
    (h : r.Everywhere fun q => ¬q.DeclaresBoth) (subject : Value) (keyPath : String) :
    (r.challenge p .first subject keyPath).record.length ≤ 1 := by
  have horElse : r.Everywhere fun q => q.DeclaresBoth → KeptByOrElse RecordsOne :=
    h.imp fun q hone hboth => absurd hboth hone
  obtain ⟨effects, heffects, hone⟩ :=
    RecordsOne.basicInvariant.hasEffects_visit_of_everywhere p horElse subject ⟨0, keyPath⟩
  rw [challenge_of_hasEffect (heffects .first)]
  exact hone.length_le

/-- If a subject fails in the mode that records every failure, the record of the mode that stops at
the first one is cut out of that record, in order, and begins with the same failure. It is this
failure alone if no ruleset in the ruleset declares both a table and a list. -/
theorem first_record_cut_of_all (p : Provider) (r : Ruleset) (subject : Value) (keyPath : String)
    (h : (r.challenge p .all subject keyPath).result = .ok false) :
    (r.challenge p .first subject keyPath).record.Sublist
      (r.challenge p .all subject keyPath).record ∧
    ∃ f, (r.challenge p .first subject keyPath).record.head? = some f ∧
      (r.challenge p .all subject keyPath).record.head? = some f ∧
      ((r.Everywhere fun q => ¬q.DeclaresBoth) →
        (r.challenge p .first subject keyPath).record = [f]) := by
  have hone (hnone : r.Everywhere fun q => ¬q.DeclaresBoth) :
      (r.challenge p .first subject keyPath).record.length ≤ 1 :=
    length_first_record_le_one p hnone subject keyPath
  obtain ⟨effects, heffects, hcut⟩ :=
    CutsRecord.stepInvariant.hasEffects_visit p r subject ⟨0, keyPath⟩
  rw [challenge_of_hasEffect (heffects .all)] at h ⊢
  rw [challenge_of_hasEffect (heffects .first)] at hone ⊢
  obtain ⟨hsublist, hhead⟩ := hcut.cut false h
  refine ⟨hsublist, ?_⟩
  cases hadded : (effects .first).added with
  | nil =>
    have hfirst := hcut.result_first h
    exact absurd hadded ((hcut.tells .first).failed (by simp) hfirst)
  | cons f rest =>
    rw [hadded] at hhead hone
    refine ⟨f, rfl, hhead.symm, fun hnone => ?_⟩
    have hrest : rest = [] := by simpa using hone hnone
    rw [hrest]

/-- A map with integers under two keys. -/
def twoIntegers : Ruleset :=
  { ofType "loopable" with
    tableElements := some ⟨[("a", ofType "integer"), ("b", ofType "integer")], .open⟩ }

/-- Of the failures of two texts, the first one alone is recorded in the mode that stops there. -/
theorem twoIntegers_first_record :
    let subject := Value.object [("a", .string "x"), ("b", .string "y")]
    (twoIntegers.challenge Provider.standard .all subject "root").result = .ok false ∧
    (twoIntegers.challenge Provider.standard .all subject "root").record.length = 2 ∧
    ∃ f, (twoIntegers.challenge Provider.standard .all subject "root").record.head? = some f ∧
      (twoIntegers.challenge Provider.standard .first subject "root").record = [f] := by
  intro subject
  have hfails : (twoIntegers.challenge Provider.standard .all subject "root").result = .ok false :=
    rfl
  obtain ⟨_, f, _, hall, hone⟩ := first_record_cut_of_all Provider.standard _ _ _ hfails
  refine ⟨hfails, rfl, f, hall, hone ?_⟩
  have hinteger : (ofType "integer").Everywhere fun q => ¬q.DeclaresBoth :=
    .node (by simp [DeclaresBoth, ofType]) (by simp [parts, ofType])
  refine .node (by simp [DeclaresBoth, twoIntegers, ofType]) ?_
  simpa [parts, twoIntegers, ofType] using hinteger

/-- Where a list stands in for a table, what is wrong with either is recorded even in the mode that
stops at the first failure. -/
example : (pairOrTexts.challenge Provider.standard .first (.array [.number (.int 1)])
    "root").record.length = 2 := rfl

end Ruleset

end Rulebook
