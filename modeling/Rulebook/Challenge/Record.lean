import Rulebook.Challenge.Failure
import Rulebook.Description.Fault

/-!
# The record of a walk

A walk over a subject adds failures to a record. What it has added stays when an error cuts it short. The
record mode says what is recorded, and whether the walk goes on behind a failure; it never changes what
a failure is.
-/

namespace Rulebook

open Json (Value)

/-- What a challenge records. -/
inductive RecordMode where
  /-- Nothing is recorded, and the walk stops at the first failure. -/
  | off
  /-- The first failure is recorded, and the walk stops there. -/
  | first
  /-- Every failure is recorded. -/
  | all
  deriving DecidableEq, Repr

/-- Whether failures are recorded. -/
def RecordMode.records : RecordMode → Bool
  | .off => false
  | _ => true

/-- Whether the walk goes on behind a failure. -/
def RecordMode.goesOn : RecordMode → Bool
  | .all => true
  | _ => false

/-- Why a challenge came to no verdict. -/
inductive ChallengeError where
  | definition (error : DefinitionError)
  | provider (error : ProviderError)
  /-- The subject is nested deeper than a walk goes. -/
  | recursionLimit (place : Location)
  deriving Repr

/-- The report of an error. -/
def ChallengeError.message : ChallengeError → String
  | .definition e => e.message
  | .provider e => e.message
  | .recursionLimit place => s!"subject nesting exceeds {maxDepth} levels, {place.text}"

/-- A walk with a result, which adds to the record. -/
abbrev Walk (α : Type) := ExceptT ChallengeError (StateM (List Failure)) α

namespace Walk

/-- The answer of a provider as a step that records nothing. -/
def ofProvider {α : Type} : Except ProviderError α → Walk α
  | .ok a => pure a
  | .error e => throw (.provider e)

/-- The number of recorded failures. -/
def mark : Walk Nat := do
  let record ← get
  pure record.length

/-- Drops the failures that were recorded behind a mark. -/
def backTo (mark : Nat) : Walk Unit := modify fun record => record.take mark

/-- Records a failure if the mode wants it. The verdict is negative. -/
def fail (mode : RecordMode) (place : Location) (subject : Value) (kind : FailureKind) :
    Walk Bool := do
  if mode.records then
    modify fun record => record ++ [⟨place, kind, Preview.of subject⟩]
  pure false

/-- Both verdicts have to be positive. Behind a negative first one, the second walk is made only if the mode
goes on. -/
def both (mode : RecordMode) (a b : Walk Bool) : Walk Bool := do
  if ← a then b
  else if mode.goesOn then do
    let _ ← b
    pure false
  else pure false

/-- All verdicts have to be positive. -/
def every {α : Type} (mode : RecordMode) (step : α → Walk Bool) : List α → Walk Bool
  | [] => pure true
  | a :: rest => both mode (step a) (every mode step rest)

/-- A walk whose failures are dropped whatever its verdict. -/
def unrecorded (w : Walk Bool) : Walk Bool := do
  let before ← mark
  let passed ← w
  backTo before
  pure passed

/-- The second walk stands in for a negative first one; if it passes, the failures of both are moot. -/
def orElse (a b : Walk Bool) : Walk Bool := do
  let before ← mark
  if ← a then pure true
  else
    let passed ← b
    if passed then backTo before
    pure passed

end Walk

end Rulebook
