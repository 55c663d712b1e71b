import Rulebook.Command.Check
import Rulebook.Suite.Outcome

/-!
# Running suites of files

Every file is a suite. The report has a block for every file and ends with the number of cases that held and
of those that did not; a file that is no suite counts as one of the latter.
-/

namespace Rulebook.Command

open Json (ReadError)

/-- Why the suite of a file is not run. -/
inductive SuiteFault where
  | unreadable (error : FileError)
  | invalid (error : ReadError)
  | challenge (error : ChallengeError)
  deriving Repr

/-- The report of a fault in the file of a path. -/
def SuiteFault.message (path : String) : SuiteFault → String
  | .unreadable e => s!"failed to read {path}: {e.message}"
  | .invalid e => s!"invalid case file {path}: {readReport e}"
  | .challenge e => e.message

/-- What comes of the suite of a file. -/
def suiteOutcomes [PatternEngine] (d : Directory) (path : String) :
    Except SuiteFault (List Outcome) :=
  match d.read path with
  | .error e => .error (.unreadable e)
  | .ok content =>
    match Suite.ofBytes content with
    | .error e => .error (.invalid e)
    | .ok suite =>
      match suite.outcomes .standard with
      | .error e => .error (.challenge e)
      | .ok outcomes => .ok outcomes

/-- A verdict in a report. -/
def verdictText (passed : Bool) : String := if passed then "pass" else "fail"

/-- The lines of a case. -/
def Outcome.lines (color : Bool) (o : Outcome) : Lines :=
  if o.ok then ["  " ++ Style.good.paint color "ok" ++ " " ++ o.name]
  else
    ("  " ++ Style.badStrong.paint color "FAILED"
        ++ s!" {o.name}: expected {verdictText o.expected}, got {verdictText o.actual}")
      :: ((if o.recordMatches then [] else ["    record differs from the expected one:"])
        ++ o.record.map recordLine)

/-- The lines of a file. -/
def suiteLines (color : Bool) (path : String) : Except SuiteFault (List Outcome) → Lines
  | .ok outcomes => Style.strong.paint color path :: outcomes.flatMap (Outcome.lines color)
  | .error fault =>
    [Style.strong.paint color path,
      "  " ++ Style.badStrong.paint color "ERROR" ++ " " ++ fault.message path]

/-- The number of cases of a file that held. -/
def heldCases : Except SuiteFault (List Outcome) → Nat
  | .ok outcomes => outcomes.countP Outcome.ok
  | .error _ => 0

/-- The number of cases of a file that did not hold. -/
def failedCases : Except SuiteFault (List Outcome) → Nat
  | .ok outcomes => outcomes.countP fun o => !o.ok
  | .error _ => 1

/-- Runs the suites of files: whether every case held, and the report. -/
def runSuites [PatternEngine] (color : Bool) (inputs : List String) (d : Directory) :
    Except CommandError (Bool × Lines) := do
  let paths ← inputPaths d inputs
  let run := paths.map fun path => (path, suiteOutcomes d path)
  let held := run.foldl (fun n r => n + heldCases r.2) 0
  let failed := run.foldl (fun n r => n + failedCases r.2) 0
  .ok (failed == 0,
    (run.flatMap fun r => suiteLines color r.1 r.2) ++ [s!"{held} passed, {failed} failed"])

end Rulebook.Command
