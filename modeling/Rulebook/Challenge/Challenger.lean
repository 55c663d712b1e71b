import Rulebook.Challenge.Visit
import Rulebook.Description.Reading

/-!
# Challenges

A challenge walks a subject from the top with an empty record. A challenger keeps a provider, a record
mode, and the record of its last challenge.
-/

namespace Rulebook

open Json (Value)

/-- The verdict on a subject, or why there is none, and the record. -/
structure Challenged where
  result : Except ChallengeError Bool
  record : List Failure

/-- Challenges a subject at a path in a build. -/
def Ruleset.challengeIn (b : Build) (p : Provider) (mode : RecordMode) (r : Ruleset)
    (subject : Value) (keyPath : String) : Challenged :=
  let (result, record) := (r.visitIn b p mode subject ⟨0, keyPath⟩).run []
  ⟨result, record⟩

/-- Challenges a subject at a path. -/
def Ruleset.challenge (p : Provider) (mode : RecordMode) (r : Ruleset) (subject : Value)
    (keyPath : String) : Challenged :=
  let (result, record) := (r.visit p mode subject ⟨0, keyPath⟩).run []
  ⟨result, record⟩

/-- The lines of a record. -/
def recordLines (record : List Failure) : List String := record.map Failure.text

/-- One who challenges subjects and keeps the record of the last challenge. -/
structure Challenger where
  provider : Provider
  mode : RecordMode
  record : List Failure

namespace Challenger

/-- A challenger that records nothing. -/
def new (p : Provider) : Challenger := ⟨p, .off, []⟩

/-- The challenger in another mode. The record stays. -/
def withMode (c : Challenger) (mode : RecordMode) : Challenger := { c with mode := mode }

/-- Challenges a subject at a path. The record starts anew. -/
def challenge (c : Challenger) (subject : Value) (r : Ruleset) (keyPath : String) :
    Except ChallengeError Bool × Challenger :=
  let ⟨result, record⟩ := r.challenge c.provider c.mode subject keyPath
  (result, { c with record := record })

/-- Reads a description and challenges a subject with it. If the description is not one of a ruleset, there is
no challenge, and the record stays. -/
def challengeDescription (c : Challenger) (subject description : Value) (keyPath : String) :
    Except ChallengeError Bool × Challenger :=
  match Ruleset.ofDescription c.provider description with
  | .error e => (.error (.definition e), c)
  | .ok r => c.challenge subject r keyPath

/-- Takes the record away. -/
def takeRecord (c : Challenger) : List Failure × Challenger :=
  (c.record, { c with record := [] })

end Challenger

end Rulebook
