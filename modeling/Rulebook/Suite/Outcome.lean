import Rulebook.Challenge.Challenger
import Rulebook.Suite.Case

/-!
# Outcomes of a suite

Running a suite reads its ruleset once, and one challenger meets all of its cases with it. A case holds if
the verdict and the stated record are the expected ones.
-/

namespace Rulebook

/-- What came of a case. -/
structure Outcome where
  name : String
  expected : Bool
  actual : Bool
  /-- The lines of the record. -/
  record : List String
  /-- Whether these are the stated lines; a case that states none is content with any. -/
  recordMatches : Bool
  deriving DecidableEq, Repr

/-- Whether a case held. -/
def Outcome.ok (o : Outcome) : Bool := o.expected == o.actual && o.recordMatches

/-- The name of a case at a place of its suite. -/
def Case.label (c : Case) (index : Nat) : String := c.name.getD s!"case {index}"

/-- Whether the lines of a record are the stated ones. -/
def Case.allows (c : Case) (record : List String) : Bool :=
  match c.record with
  | some stated => stated == record
  | none => true

/-- What comes of a case when a challenger meets it, and the challenger behind it. -/
def Case.outcome (challenger : Challenger) (r : Ruleset) (index : Nat) (c : Case) :
    Except ChallengeError (Outcome × Challenger) :=
  match challenger.challenge c.subject r rootPath with
  | (.error e, _) => .error e
  | (.ok actual, behind) =>
    let record := recordLines behind.record
    .ok (⟨c.label index, c.expect, actual, record, c.allows record⟩, behind)

/-- What comes of cases that one challenger meets, the first of them with so many in front of it. -/
def Case.outcomesFrom (r : Ruleset) :
    Challenger → Nat → List Case → Except ChallengeError (List Outcome)
  | _, _, [] => .ok []
  | challenger, index, c :: rest => do
    let (first, behind) ← c.outcome challenger r index
    let others ← Case.outcomesFrom r behind (index + 1) rest
    .ok (first :: others)

/-- What comes of the cases of a suite, in order. -/
def Suite.outcomes (p : Provider) (s : Suite) : Except ChallengeError (List Outcome) :=
  match Ruleset.ofDescription p s.rules with
  | .error e => .error (.definition e)
  | .ok r => Case.outcomesFrom r ((Challenger.new p).withMode s.mode) 0 s.cases

end Rulebook
