import Mathlib.Data.List.Perm.Basic
import Rulebook.Proofs.Challenge.Histories
import Rulebook.Proofs.Description.Steps
import Rulebook.Suite.Outcome

/-!
# Cases on their own

One challenger meets all cases of a suite, each with the record that the case before has left. Still every
case has the outcome that it has on its own, with a new challenger. So the order of the cases shows in nothing
but the order of the outcomes and the names of those cases that have none themselves.
-/

namespace Rulebook

open Json (Value)

/-- What a new challenger says about the subject of a case, and that challenger behind it. -/
def Case.alone (p : Provider) (mode : RecordMode) (r : Ruleset) (c : Case) :
    Except ChallengeError Bool × Challenger :=
  ((Challenger.new p).withMode mode).challenge c.subject r rootPath

/-- The outcome of a case on its own, under a name. -/
structure Case.HasOutcome (p : Provider) (mode : RecordMode) (r : Ruleset) (c : Case) (name : String)
    (o : Outcome) : Prop where
  name : o.name = name
  expected : o.expected = c.expect
  actual : (c.alone p mode r).1 = .ok o.actual
  record : o.record = recordLines (c.alone p mode r).2.record
  recordMatches : o.recordMatches = true ↔ c.record = none ∨ c.record = some o.record
  ok : o.ok = true ↔ o.actual = c.expect ∧ o.recordMatches = true

/-- The outcomes of cases on their own, in order, the first case with so many in front of it. -/
def Case.HaveOutcomes (p : Provider) (mode : RecordMode) (r : Ruleset) (index : Nat)
    (cases : List Case) (os : List Outcome) : Prop :=
  List.Forall₂ (fun ci o => ci.1.HasOutcome p mode r (ci.1.label ci.2) o) (cases.zipIdx index) os

/-- An outcome under the name that its case has itself. -/
def Outcome.ownName (c : Case) (o : Outcome) : Outcome := { o with name := c.name.getD "" }

/-- The lines of a record are the stated ones, or none are stated. -/
theorem Case.allows_iff (c : Case) (record : List String) :
    c.allows record = true ↔ c.record = none ∨ c.record = some record := by
  cases h : c.record <;> simp [allows, h]

/-- An outcome is good if the verdict is the expected one and the record is one that is allowed. -/
theorem Outcome.ok_iff (o : Outcome) :
    o.ok = true ↔ o.actual = o.expected ∧ o.recordMatches = true := by
  rw [Outcome.ok, Bool.and_eq_true, beq_iff_eq, eq_comm]

namespace Case

variable {p : Provider} {mode : RecordMode} {r : Ruleset}

namespace HasOutcome

variable {c : Case} {name : String} {o o' : Outcome}

/-- A case has at most one outcome under a name. -/
theorem unique (h : c.HasOutcome p mode r name o) (h' : c.HasOutcome p mode r name o') : o = o' := by
  have hname : o.name = o'.name := h.name.trans h'.name.symm
  have hexpected : o.expected = o'.expected := h.expected.trans h'.expected.symm
  have hactual : o.actual = o'.actual := Except.ok.inj (h.actual.symm.trans h'.actual)
  have hrecord : o.record = o'.record := h.record.trans h'.record.symm
  have hmatches : o.recordMatches = o'.recordMatches := by
    rw [Bool.eq_iff_iff, h.recordMatches, h'.recordMatches, hrecord]
  cases o
  cases o'
  simp only [Outcome.mk.injEq]
  exact ⟨hname, hexpected, hactual, hrecord, hmatches⟩

/-- Under another name, an outcome is the same. -/
theorem rename (h : c.HasOutcome p mode r name o) (name' : String) :
    c.HasOutcome p mode r name' { o with name := name' } :=
  ⟨rfl, h.expected, h.actual, h.record, h.recordMatches, h.ok⟩

/-- A case has an outcome if there is a verdict on its subject. -/
theorem exists_iff (c : Case) (name : String) :
    (∃ o, c.HasOutcome p mode r name o) ↔ ∃ verdict, (c.alone p mode r).1 = .ok verdict := by
  constructor
  · rintro ⟨o, h⟩
    exact ⟨o.actual, h.actual⟩
  · rintro ⟨verdict, h⟩
    let record := recordLines (c.alone p mode r).2.record
    exact ⟨⟨name, c.expect, verdict, record, c.allows record⟩, rfl, rfl, h, rfl, c.allows_iff record,
      Outcome.ok_iff _⟩

end HasOutcome

/-- A challenger that has met other cases gives a case the outcome that it has on its own. Behind it, that
challenger differs in nothing but its record. -/
theorem outcome_ok_iff {challenger behind : Challenger} {index : Nat} {c : Case} {o : Outcome} :
    c.outcome challenger r index = .ok (o, behind) ↔
      c.HasOutcome challenger.provider challenger.mode r (c.label index) o ∧
        behind = (c.alone challenger.provider challenger.mode r).2 := by
  have halone : challenger.challenge c.subject r rootPath =
      c.alone challenger.provider challenger.mode r := challenger.challenge_eq_anew ..
  rw [outcome, halone]
  rcases hresult : c.alone challenger.provider challenger.mode r with ⟨_ | actual, after⟩
  · simp only [reduceCtorEq, false_iff, not_and]
    intro h
    simpa [hresult] using h.actual
  · have hmine : c.HasOutcome challenger.provider challenger.mode r (c.label index)
        ⟨c.label index, c.expect, actual, recordLines after.record,
          c.allows (recordLines after.record)⟩ :=
      ⟨rfl, rfl, by rw [hresult], by rw [hresult], c.allows_iff _, Outcome.ok_iff _⟩
    simp only [Except.ok.injEq, Prod.mk.injEq, eq_comm (b := behind)]
    exact and_congr_left fun _ => ⟨fun h => h ▸ hmine, fun h => hmine.unique h⟩

/-- A challenger that meets cases one after another gives them the outcomes that they have on their own. -/
theorem outcomesFrom_ok_iff {challenger : Challenger} (hprovider : challenger.provider = p)
    (hmode : challenger.mode = mode) {index : Nat} {cases : List Case} {os : List Outcome} :
    Case.outcomesFrom r challenger index cases = .ok os ↔ HaveOutcomes p mode r index cases os := by
  -- the challenger behind a case is another one, of which only provider and mode are known
  induction cases generalizing challenger index os with
  | nil => simp [outcomesFrom, HaveOutcomes, eq_comm]
  | cons c rest ih =>
    have hrest {others : List Outcome} :
        Case.outcomesFrom r (c.alone p mode r).2 (index + 1) rest = .ok others ↔
          HaveOutcomes p mode r (index + 1) rest others := ih rfl rfl
    simp only [outcomesFrom, bind_ok_iff, Prod.exists, outcome_ok_iff, hprovider, hmode,
      HaveOutcomes, List.zipIdx_cons, List.forall₂_cons_left_iff, Except.ok.injEq]
    constructor
    · rintro ⟨first, _, ⟨hfirst, rfl⟩, others, hothers, rfl⟩
      exact ⟨first, others, hfirst, hrest.mp hothers, rfl⟩
    · rintro ⟨first, others, hfirst, hothers, rfl⟩
      exact ⟨first, _, ⟨hfirst, rfl⟩, others, hrest.mpr hothers, rfl⟩

/-- Cases have outcomes if there is a verdict on every subject. -/
theorem exists_haveOutcomes_iff {index : Nat} {cases : List Case} :
    (∃ os, HaveOutcomes p mode r index cases os) ↔
      ∀ c ∈ cases, ∃ verdict, (c.alone p mode r).1 = .ok verdict := by
  induction cases generalizing index with
  | nil => simp [HaveOutcomes]
  | cons c rest ih =>
    rw [List.forall_mem_cons, ← @ih (index + 1),
      ← HasOutcome.exists_iff c (c.label index)]
    simp only [HaveOutcomes, List.zipIdx_cons, List.forall₂_cons_left_iff]
    constructor
    · rintro ⟨_, o, os, ho, hos, rfl⟩
      exact ⟨⟨o, ho⟩, os, hos⟩
    · rintro ⟨⟨o, ho⟩, os, hos⟩
      exact ⟨_, o, os, ho, hos, rfl⟩

namespace HaveOutcomes

variable {index index' : Nat} {cases cases' : List Case} {os os' : List Outcome}

/-- Under the names that the cases have themselves, outcomes do not tell where the cases stand. -/
theorem ownName (h : HaveOutcomes p mode r index cases os) :
    List.Forall₂ (fun c o => Case.HasOutcome p mode r c (c.name.getD "") o) cases
      (List.zipWith Outcome.ownName cases os) := by
  induction cases generalizing index os with
  | nil => simp
  | cons c rest ih =>
    obtain ⟨o, others, ho, hothers, rfl⟩ := List.forall₂_cons_left_iff.mp h
    exact .cons (ho.rename _) (ih hothers)

/-- Permuted cases have permuted outcomes. -/
theorem perm (hperm : cases'.Perm cases) (h : HaveOutcomes p mode r index cases os)
    (h' : HaveOutcomes p mode r index' cases' os') :
    (List.zipWith Outcome.ownName cases' os').Perm (List.zipWith Outcome.ownName cases os) := by
  have hunique : Relator.RightUnique fun c o => Case.HasOutcome p mode r c (c.name.getD "") o :=
    fun _ _ _ => HasOutcome.unique
  exact List.rel_perm_imp hunique h'.ownName h.ownName hperm

end HaveOutcomes

end Case

/-- The cases of a suite are challenged independently. There are outcomes if the rules are read and there is
a verdict on every subject on its own; then every case has, at its place, the outcome that it has on its own.
Where the cases stand shows in the names of those that have none. -/
theorem Suite.outcomes_independent (p : Provider) (s : Suite) :
    ((∃ os, s.outcomes p = .ok os) ↔
      ∃ r, Ruleset.ofDescription p s.rules = .ok r ∧
        ∀ c ∈ s.cases, ∃ verdict, (c.alone p s.mode r).1 = .ok verdict) ∧
    ∀ os, s.outcomes p = .ok os →
      (∃ r, Ruleset.ofDescription p s.rules = .ok r ∧
        Case.HaveOutcomes p s.mode r 0 s.cases os) ∧
      ∀ cases', cases'.Perm s.cases →
        ∃ os', { s with cases := cases' }.outcomes p = .ok os' ∧
          (List.zipWith Outcome.ownName cases' os').Perm
            (List.zipWith Outcome.ownName s.cases os) := by
  cases hread : Ruleset.ofDescription p s.rules with
  | error e => simp [Suite.outcomes, hread]
  | ok r =>
    have hiff (cases : List Case) (os : List Outcome) :
        { s with cases := cases }.outcomes p = .ok os ↔
          Case.HaveOutcomes p s.mode r 0 cases os := by
      simp only [Suite.outcomes, hread]
      exact Case.outcomesFrom_ok_iff rfl rfl
    simp only [Except.ok.injEq, exists_eq_left']
    refine ⟨(exists_congr fun os => hiff s.cases os).trans Case.exists_haveOutcomes_iff,
      fun os hos => ⟨(hiff s.cases os).mp hos, fun cases' hperm => ?_⟩⟩
    have hverdicts := Case.exists_haveOutcomes_iff.mp ⟨os, (hiff s.cases os).mp hos⟩
    obtain ⟨os', hos'⟩ := Case.exists_haveOutcomes_iff.mpr fun c hc =>
      hverdicts c (hperm.mem_iff.mp hc)
    exact ⟨os', (hiff cases' os').mpr hos', ((hiff s.cases os).mp hos).perm hperm hos'⟩

/-- Two cases for numbers from one to three. The one without a name states its record. -/
def rangeSuite : Suite where
  rules := .object [("integer", .bool true), ("range", .array [.number (.int 1), .number (.int 3)])]
  mode := .first
  cases := [⟨some "in range", .number (.int 2), true, none⟩,
    ⟨none, .number (.int 4), false, some ["0 root: range(1, 3) failed - integer 4"]⟩]

/-- Both cases hold, in either order. -/
theorem rangeSuite_outcomes :
    ∃ os', { rangeSuite with cases := rangeSuite.cases.reverse }.outcomes .standard = .ok os' ∧
      (List.zipWith Outcome.ownName rangeSuite.cases.reverse os').Perm
        [⟨"in range", true, true, [], true⟩,
          ⟨"", false, false, ["0 root: range(1, 3) failed - integer 4"], true⟩] := by
  have hos : rangeSuite.outcomes .standard = .ok
      [⟨"in range", true, true, [], true⟩,
        ⟨"case 1", false, false, ["0 root: range(1, 3) failed - integer 4"], true⟩] := by
    rfl
  exact ((Suite.outcomes_independent .standard rangeSuite).2 _ hos).2 _ rangeSuite.cases.reverse_perm

end Rulebook
