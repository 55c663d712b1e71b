import Rulebook.Command.Documents
import Rulebook.Command.Glob
import Rulebook.Standard.Provider

/-!
# Failures of commands

Why a command stops without an answer.
-/

namespace Rulebook.Command

open Json (ReadError)

/-- Why a command stops. -/
inductive CommandError where
  | unreadableRules (path : String) (error : FileError)
  | badRules (path : String) (error : ReadError)
  | invalidRules (path : String) (error : DefinitionError)
  | badGlob (glob : String) (error : GlobError)
  | emptyGlob (glob : String)
  | noDirectory (error : FileError)
  | unwritable (path : String) (error : FileError)
  | unfitRules (fault : IntegrityFault)
  deriving Repr

/-- The report of a failure. -/
def CommandError.message : CommandError → String
  | .unreadableRules path e => s!"failed to read ruleset {path}: {e.message}"
  | .badRules path e => s!"failed to parse ruleset {path}: {readReport e}"
  | .invalidRules path e => s!"invalid ruleset {path}: {e.message}"
  | .badGlob glob e => s!"bad glob pattern {glob}: {e.message}"
  | .emptyGlob glob => s!"glob pattern matched no files: {glob}"
  | .noDirectory e => e.message
  | .unwritable path e => s!"failed to write {path}: {e.message}"
  | .unfitRules fault => s!"standard rules failed their integrity check: {fault.message}"

/-- The ruleset that the file of a path describes. -/
def rulesetAt [PatternEngine] (d : Directory) (path : String) : Except CommandError Ruleset :=
  match d.read path with
  | .error e => .error (.unreadableRules path e)
  | .ok content =>
    match Json.Value.ofBytes content with
    | .error e => .error (.badRules path e)
    | .ok description =>
      match Ruleset.ofDescription .standard description with
      | .error e => .error (.invalidRules path e)
      | .ok r => .ok r

/-- The paths of inputs: what is no glob is a path itself. -/
def inputPaths (d : Directory) : List String → Except CommandError (List String)
  | [] => .ok []
  | input :: rest =>
    if Glob.isGlob input then
      match Glob.paths d input with
      | .error e => .error (.badGlob input e)
      | .ok [] => .error (.emptyGlob input)
      | .ok paths => do
        let others ← inputPaths d rest
        .ok (paths ++ others)
    else do
      let others ← inputPaths d rest
      .ok (input :: others)

end Rulebook.Command
