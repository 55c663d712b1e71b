import Rulebook.Command.Failure
import Rulebook.Command.Style

/-!
# Checking files

Every file is judged on its own: its documents are challenged one after the other, and the report has a
block for every file, in the order of the inputs.
-/

namespace Rulebook.Command

open Json (Value)

/-- The lines of a report. -/
abbrev Lines := List String

/-- What came of a document. -/
structure Judgement where
  label : String
  passed : Bool
  record : List String
  deriving DecidableEq, Repr

/-- Why a file is not judged. -/
inductive FileFault where
  | documents (fault : DocumentFault)
  /-- The challenge of the document with this number from zero came to no verdict. -/
  | challenge (number : Nat) (error : ChallengeError)
  deriving Repr

/-- The report of a fault in the file of a path. -/
def FileFault.message (path : String) : FileFault → String
  | .documents fault => fault.message path
  | .challenge number e => s!"{path} document {number}: {e.message}"

/-- What a document is called: the path of its file, with a number if there is more than one. -/
def documentLabel (path : String) (several : Bool) (number : Nat) : String :=
  if several then s!"{path}#{number}" else path

/-- Judges the documents of a file that one challenger meets, the first of which has this number. -/
def judgeFrom (s : CheckSettings) (r : Ruleset) (path : String) (several : Bool) :
    Challenger → Nat → List Value → Except FileFault (List Judgement)
  | _, _, [] => .ok []
  | challenger, number, v :: rest =>
    match challenger.challenge v r s.rootName with
    | (.error e, _) => .error (.challenge number e)
    | (.ok passed, behind) => do
      let others ← judgeFrom s r path several behind (number + 1) rest
      .ok (⟨documentLabel path several number, passed, recordLines behind.record⟩ :: others)

variable [PatternEngine] [FilterEngine]

/-- Judges the file of a path, with a challenger of its own. -/
def judgeFile (s : CheckSettings) (r : Ruleset) (d : Directory) (path : String) :
    Except FileFault (List Judgement) :=
  match s.input.documents d path with
  | .error fault => .error (.documents fault)
  | .ok vs =>
    judgeFrom s r path (decide (1 < vs.length)) ((Challenger.new .standard).withMode s.mode) 0 vs

/-- A line of a record below what it belongs to. -/
def recordLine (line : String) : String := "    " ++ line

/-- The lines of a document. -/
def Judgement.lines (color : Bool) (j : Judgement) : Lines :=
  ((if j.passed then Style.goodStrong.paint color "PASS" else Style.badStrong.paint color "FAIL")
      ++ " " ++ j.label)
    :: j.record.map recordLine

/-- The lines of a file. -/
def fileLines (color : Bool) (path : String) : Except FileFault (List Judgement) → Lines
  | .ok judgements => judgements.flatMap (Judgement.lines color)
  | .error fault => [Style.badStrong.paint color "ERROR" ++ s!" {path}: {fault.message path}"]

/-- Whether every document of a file passed. -/
def filePassed : Except FileFault (List Judgement) → Bool
  | .ok judgements => judgements.all Judgement.passed
  | .error _ => false

/-- Checks files: whether all of them passed, and the report. -/
def checkFiles (color : Bool) (s : CheckSettings) (r : Ruleset) (d : Directory)
    (paths : List String) : Bool × Lines :=
  let judged := paths.map fun path => (path, judgeFile s r d path)
  (judged.all fun j => filePassed j.2, judged.flatMap fun j => fileLines color j.1 j.2)

/-- Runs a check. -/
def runCheck (color : Bool) (s : CheckSettings) (d : Directory) :
    Except CommandError (Bool × Lines) := do
  let r ← rulesetAt d s.rules
  let paths ← inputPaths d s.input.inputs
  .ok (checkFiles color s r d paths)

end Rulebook.Command
