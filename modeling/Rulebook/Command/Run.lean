import Rulebook.Command.RuleTable
import Rulebook.Command.Suites
import Rulebook.Ruleset.Canonical

/-!
# Running commands

A command is run on the files of a directory. It answers whether all is well, it writes a report, and one of
the commands writes a file.
-/

namespace Rulebook.Command

/-- What comes of a command. -/
structure Response where
  /-- Whether all is well, or why the command stopped. -/
  result : Except CommandError Bool
  output : String
  /-- The files afterwards. -/
  directory : Directory

/-- The text of lines. -/
def linesText (lines : Lines) : String := String.join (lines.map fun line => line ++ "\n")

/-- The response of a command that only reports. -/
def Response.ofReport (d : Directory) : Except CommandError (Bool × Lines) → Response
  | .error e => ⟨.error e, "", d⟩
  | .ok (isWell, lines) => ⟨.ok isWell, linesText lines, d⟩

/-- Writes a text to the file of a path, whose directory is made if it is not there. -/
def writeText (d : Directory) (path text : String) : Except CommandError Directory :=
  match d.makeParent path with
  | .error e => .error (.noDirectory e)
  | .ok () =>
    match d.write path (Utf8.encode text.toList) with
    | .error e => .error (.unwritable path e)
    | .ok d => .ok d

variable [PatternEngine]

/-- Gives the canonical form of a ruleset. -/
def runCanonical (rules : String) (out : Option String) (d : Directory) : Response :=
  match rulesetAt d rules with
  | .error e => ⟨.error e, "", d⟩
  | .ok r =>
    match out with
    | none => ⟨.ok true, linesText [r.toJson.prettyText], d⟩
    | some path =>
      match writeText d path r.toJson.prettyText with
      | .error e => ⟨.error e, "", d⟩
      | .ok d => ⟨.ok true, "", d⟩

/-- Runs what a command line asks for. -/
def Task.run [FilterEngine] (color : Bool) (d : Directory) : Task → Response
  | .check settings => .ofReport d (runCheck color settings d)
  | .canonical path out => runCanonical path out d
  | .suites inputs => .ofReport d (runSuites color inputs d)
  | .rules => .ofReport d ((fun lines => (true, lines)) <$> listRules color)

end Rulebook.Command
