import Mathlib.Data.List.Induction
import Rulebook.Challenge.Challenger
import Rulebook.Standard.Provider

/-!
# One challenger and many requests

A challenger answers one request after another; in between, its mode may be changed and its record
taken away. What it answers never depends on what it was asked before. What it records does not either,
as soon as there is a ruleset to challenge with, since the record then starts anew. A request with a
description that is not one of a ruleset leaves the record alone, so behind it there still stand the
failures of the last subject that was challenged.
-/

namespace Rulebook

open Json (Value)

namespace Challenger

/-- What a subject is to be challenged with. -/
inductive Rules where
  | given (r : Ruleset)
  | described (description : Value)

/-- The ruleset to challenge with. -/
def Rules.read (p : Provider) : Rules → Except DefinitionError Ruleset
  | given r => .ok r
  | described description => Ruleset.ofDescription p description

/-- A subject to be challenged. -/
structure Request where
  subject : Value
  rules : Rules
  keyPath : String

/-- There is a ruleset to challenge with. -/
def Request.IsRead (p : Provider) (q : Request) : Prop := ∃ r, q.rules.read p = .ok r

/-- A use of a challenger. -/
inductive Use where
  | request (q : Request)
  | withMode (mode : RecordMode)
  | takeRecord

/-- A use that leaves the record alone. -/
def Use.KeepsRecord (p : Provider) : Use → Prop
  | request q => ¬q.IsRead p
  | withMode _ => True
  | takeRecord => False

/-- The answer to a request. -/
def answer (c : Challenger) (q : Request) : Except ChallengeError Bool × Challenger :=
  match q.rules with
  | .given r => c.challenge q.subject r q.keyPath
  | .described description => c.challengeDescription q.subject description q.keyPath

/-- The challenger behind a use. -/
def next (c : Challenger) : Use → Challenger
  | .request q => (c.answer q).2
  | .withMode mode => c.withMode mode
  | .takeRecord => c.takeRecord.2

/-- The challenger behind a sequence of uses. -/
def after (c : Challenger) (uses : List Use) : Challenger := uses.foldl next c

variable {c : Challenger} {q : Request}

theorem after_append_singleton (c : Challenger) (uses : List Use) (u : Use) :
    c.after (uses ++ [u]) = (c.after uses).next u := by
  simp [after]

/-- A challenge does not look at the record that was there. -/
theorem challenge_eq_anew (c : Challenger) (subject : Value) (r : Ruleset) (keyPath : String) :
    c.challenge subject r keyPath =
      ((new c.provider).withMode c.mode).challenge subject r keyPath :=
  rfl

/-- With a ruleset, a request is a challenge. -/
theorem answer_of_read {r : Ruleset} (h : q.rules.read c.provider = .ok r) :
    c.answer q = c.challenge q.subject r q.keyPath := by
  cases hrules : q.rules with
  | given r' =>
    simp only [hrules, Rules.read, Except.ok.injEq] at h
    simp only [answer, hrules, h]
  | described description =>
    simp only [hrules, Rules.read] at h
    simp only [answer, hrules, challengeDescription, h]

/-- Without a ruleset, there is no challenge. -/
theorem answer_of_unread {e : DefinitionError} (h : q.rules.read c.provider = .error e) :
    c.answer q = (.error (.definition e), c) := by
  cases hrules : q.rules with
  | given r => simp [hrules, Rules.read] at h
  | described description =>
    simp only [hrules, Rules.read] at h
    simp only [answer, hrules, challengeDescription, h]

/-- A request is answered as by a challenger without a record, or it is not read. -/
theorem answer_cases (c : Challenger) (q : Request) :
    (q.IsRead c.provider ∧ c.answer q = ((new c.provider).withMode c.mode).answer q) ∨
    (¬q.IsRead c.provider ∧ (c.answer q).2 = c ∧
      (((new c.provider).withMode c.mode).answer q).2.record = [] ∧
      (c.answer q).1 = (((new c.provider).withMode c.mode).answer q).1) := by
  have hprovider : ((new c.provider).withMode c.mode).provider = c.provider := rfl
  cases h : q.rules.read c.provider with
  | ok r =>
    rw [answer_of_read h, answer_of_read (hprovider ▸ h)]
    exact .inl ⟨⟨r, h⟩, c.challenge_eq_anew q.subject r q.keyPath⟩
  | error e =>
    rw [answer_of_unread h, answer_of_unread (hprovider ▸ h)]
    exact .inr ⟨fun ⟨r, hr⟩ => by simp [h] at hr, rfl, rfl, rfl⟩

/-- No use changes the provider. -/
theorem provider_next (c : Challenger) (u : Use) : (c.next u).provider = c.provider := by
  cases u with
  | request q =>
    obtain ⟨⟨r, hr⟩, -⟩ | ⟨-, hsame, -⟩ := c.answer_cases q
    · rw [next, answer_of_read hr]
      rfl
    · rw [next, hsame]
  | withMode mode => rfl
  | takeRecord => rfl

/-- No sequence of uses changes the provider. -/
theorem provider_after (c : Challenger) (uses : List Use) :
    (c.after uses).provider = c.provider := by
  induction uses using List.reverseRecOn with
  | nil => rfl
  | append_singleton uses u ih => rw [after_append_singleton, provider_next, ih]

/-- The failures are those of the last request that was read. Behind it, the record was left alone. -/
def ShowsLast (p : Provider) (uses : List Use) (record : List Failure) : Prop :=
  ∃ earlier q later, uses = earlier ++ .request q :: later ∧ q.IsRead p ∧
    (∀ u ∈ later, u.KeepsRecord p) ∧
    record = (((new p).withMode ((new p).after earlier).mode).answer q).2.record

/-- A use that leaves the record alone does not change what the failures are. -/
theorem ShowsLast.append_singleton {p : Provider} {uses : List Use} {record : List Failure}
    {u : Use} (h : ShowsLast p uses record) (hkeep : u.KeepsRecord p) :
    ShowsLast p (uses ++ [u]) record := by
  obtain ⟨earlier, q, later, rfl, hread, hlater, hrecord⟩ := h
  refine ⟨earlier, q, later ++ [u], by simp, hread, ?_, hrecord⟩
  simpa [or_imp, forall_and] using ⟨hlater, hkeep⟩

/-- There is no record, or it shows the last request that was read. -/
theorem record_after (p : Provider) (uses : List Use) :
    ((new p).after uses).record = [] ∨ ShowsLast p uses ((new p).after uses).record := by
  -- by the last use: it makes the record anew, takes it away, or leaves it as the uses before had it
  induction uses using List.reverseRecOn with
  | nil => exact .inl rfl
  | append_singleton uses u ih =>
    have hprovider : ((new p).after uses).provider = p := provider_after _ _
    rw [after_append_singleton]
    cases u with
    | request q =>
      obtain ⟨hread, hfresh⟩ | ⟨hunread, hsame, -⟩ := ((new p).after uses).answer_cases q
      · rw [hprovider] at hread hfresh
        exact .inr ⟨uses, q, [], rfl, hread, by simp, by rw [next, hfresh]⟩
      · rw [hprovider] at hunread
        rw [next, hsame]
        exact ih.imp_right fun h => h.append_singleton hunread
    | withMode mode => exact ih.imp_right fun h => h.append_singleton trivial
    | takeRecord => exact .inl rfl

/-- Whatever a challenger was used for before, it answers a request as a new challenger in its mode does.
It also leaves the same record if there is a ruleset to challenge with. Otherwise the challenger stays as it
is, and the record is the same only if none was there: the failures that are there are those of an earlier
request. -/
theorem answer_after (p : Provider) (uses : List Use) (q : Request) :
    let c := (new p).after uses
    let fresh := (new p).withMode c.mode
    (c.answer q).1 = (fresh.answer q).1 ∧
    ((c.answer q).2.record = (fresh.answer q).2.record ↔ q.IsRead p ∨ c.record = []) ∧
    (¬q.IsRead p → (c.answer q).2 = c) ∧
    (c.record = [] ∨ ShowsLast p uses c.record) := by
  intro c fresh
  have hprovider : c.provider = p := provider_after _ _
  obtain ⟨hread, hfresh⟩ | ⟨hunread, hsame, hnone, hresult⟩ := c.answer_cases q
  · rw [hprovider] at hread hfresh
    have hanswer : c.answer q = fresh.answer q := hfresh
    refine ⟨by rw [hanswer], ?_, fun h => absurd hread h, record_after p uses⟩
    simp [hanswer, hread]
  · rw [hprovider] at hunread hnone hresult
    have hempty : (fresh.answer q).2.record = [] := hnone
    refine ⟨hresult, ?_, fun _ => hsame, record_after p uses⟩
    simp [hsame, hempty, hunread]

/-- A text meets the rule for integers, and then a description with an unknown rule: the failure of the
text is still there. -/
theorem record_of_earlier_subject :
    ¬∀ (p : Provider) (uses : List Use) (q : Request),
      (((new p).after uses).answer q).1 =
          (((new p).withMode ((new p).after uses).mode).answer q).1 ∧
        (((new p).after uses).answer q).2.record =
          (((new p).withMode ((new p).after uses).mode).answer q).2.record := by
  intro h
  have hrecord := (h .standard
    [.withMode .first, .request ⟨.string "x", .described (.string "integer"), "root"⟩]
    ⟨.number (.int 1), .described (.object [("nope", .bool true)]), "root"⟩).2
  have hlength := congrArg List.length hrecord
  exact absurd hlength (by decide)

end Challenger

end Rulebook
