import Rulebook.Command.Usage
import Rulebook.Suite.Case

/-!
# Invocations

What a command line asks for, with its settings.
-/

namespace Rulebook.Command

/-- How documents are taken from input files. -/
structure InputSettings where
  /-- Whether every line that is not blank is a document of its own. -/
  byLine : Bool
  pointer : Option String
  filter : Option String
  /-- Paths or globs. -/
  inputs : List String
  deriving DecidableEq, Repr

/-- The settings of a check. -/
structure CheckSettings where
  /-- The path of the ruleset's description. -/
  rules : String
  input : InputSettings
  mode : RecordMode
  /-- The path of top-level subjects in records. -/
  rootName : String
  deriving DecidableEq, Repr

/-- What a command line asks for. -/
inductive Task where
  /-- Challenge documents with a ruleset. -/
  | check (settings : CheckSettings)
  /-- Give the canonical form of a ruleset, to a file if a path is given. -/
  | canonical (rules : String) (out : Option String)
  /-- Run suites. -/
  | suites (inputs : List String)
  /-- List the standard rules. -/
  | rules
  deriving DecidableEq, Repr

/-- The paths and globs of files that a task reads. -/
def Task.inputs : Task → List String
  | .check settings => settings.rules :: settings.input.inputs
  | .canonical path _ => [path]
  | .suites inputs => inputs
  | .rules => []

/-- The path of the file that a task writes. -/
def Task.out? : Task → Option String
  | .canonical _ out => out
  | _ => none

/-- A command line. -/
structure Invocation where
  verbosity : Nat
  task : Task
  deriving DecidableEq, Repr

/-- How the program is used. -/
def usageText : String :=
  "Usage: rulebook [-v]... <check | normalize | suite | rules> [OPTIONS]\n\n"
    ++ "  check      --rules <RULES> --input <INPUT>... [--ndjson] [--json-pointer <POINTER>]\n"
    ++ "             [--jq-expr <FILTER>] [--record <off | first | all>] [--root-name <NAME>]\n"
    ++ "  normalize  --rules <RULES> [--out <OUT>]\n"
    ++ "  suite      --input <INPUT>...\n"
    ++ "  rules"

/-- The names of the record modes on a command line. -/
def modeNames : List (String × RecordMode) := [("off", .off), ("first", .first), ("all", .all)]

/-- Whether a path can be one. -/
def isPath (path : String) : Bool := !path.isEmpty

/-- Any text is a value. -/
def anyValue (_ : String) : Bool := true

/-- Asks for more messages, every time it is given. -/
def verboseOption : Opt := ⟨some 'v', "verbose", .count⟩

/-- Asks for help. -/
def helpOption : Opt := ⟨some 'h', "help", .help⟩

/-- Asks for the version. -/
def versionOption : Opt := ⟨some 'V', "version", .version⟩

/-- The file with the rules. -/
def rulesOption : Opt := ⟨none, "rules", .single isPath⟩

/-- The files to read, or patterns of their names. -/
def inputOption : Opt := ⟨some 'i', "input", .many⟩

/-- The files hold one document a line. -/
def ndjsonOption : Opt := ⟨none, "ndjson", .switch⟩

/-- The part of each document to look at. -/
def pointerOption : Opt := ⟨none, "json-pointer", .single anyValue⟩

/-- The filter that finds the subjects in a document. -/
def filterOption : Opt := ⟨none, "jq-expr", .single anyValue⟩

/-- The name of the subject in key paths. -/
def rootNameOption : Opt := ⟨none, "root-name", .single anyValue⟩

/-- The file to write. -/
def outOption : Opt := ⟨some 'o', "out", .single isPath⟩

/-- How much of the failures to record. -/
def recordOption : Opt :=
  ⟨none, "record", .single fun name => (Association.lookup name modeNames).isSome⟩

/-- The commands by name, with their own options and those that have to be given. -/
def commandOptions : List (String × List Opt × List Opt) :=
  [("check",
      [rulesOption, ndjsonOption, pointerOption, filterOption, inputOption, recordOption,
        rootNameOption],
      [rulesOption, inputOption]),
    ("normalize", [rulesOption, outOption], [rulesOption]),
    ("suite", [inputOption], [inputOption]),
    ("rules", [], [])]

/-- The command that shows help. -/
def helpCommand : String := "help"

/-- What may be given in front of a command. -/
def topGrammar : Grammar :=
  ⟨[verboseOption, helpOption, versionOption], Association.keys commandOptions ++ [helpCommand]⟩

/-- What may be given behind a command. -/
def commandGrammar (options : List Opt) : Grammar := ⟨options ++ [verboseOption, helpOption], []⟩

/-- How often a count may be told apart. -/
def countLimit : Nat := 255

/-- The verbosity that was asked for behind the command, or else in front of it. -/
def verbosityOf (top sub : Given) : Nat :=
  let given := if sub.has "verbose" then sub else top
  min countLimit (given.valuesOf "verbose").length

/-- The input settings that were given. -/
def inputSettings (g : Given) : InputSettings :=
  ⟨g.has "ndjson", (g.valuesOf "json-pointer").head?, (g.valuesOf "jq-expr").head?,
    g.valuesOf "input"⟩

/-- The record mode that was given. First failures are recorded unless another mode is. -/
def modeOf (g : Given) : RecordMode :=
  match (g.valuesOf "record").head? with
  | some name => (Association.lookup name modeNames).getD .first
  | none => .first

/-- The task of a command with what was given behind its name. -/
def taskOf (name : String) (g : Given) : Task :=
  let rules := (g.valuesOf "rules").headD ""
  if name = "check" then
    .check ⟨rules, inputSettings g, modeOf g, (g.valuesOf "root-name").headD rootPath⟩
  else if name = "normalize" then .canonical rules (g.valuesOf "out").head?
  else if name = "suite" then .suites (g.valuesOf "input")
  else .rules

/-- Why help is not shown for some names: only commands have it. -/
def helpFor : List String → UsageError
  | [] => .help
  | [name] => if topGrammar.commands.contains name then .help else .unknownCommand
  | _ => .unknownCommand

/-- Reads what follows the name of a command. -/
def commandLine (top : Given) (name : String) (rest : List String) :
    Except UsageError Invocation := do
  match Association.lookup name commandOptions with
  | none => .error (helpFor rest)
  | some (options, needed) =>
    let (g, _) ← (commandGrammar options).take false .nothing rest
    if needed.all fun o => g.has o.long then .ok ⟨verbosityOf top g, taskOf name g⟩
    else .error .missingArgument

/-- Reads a command line. -/
def Invocation.ofArguments (arguments : List String) : Except UsageError Invocation := do
  let (top, command) ← topGrammar.take false .nothing arguments
  match command with
  | some (name, rest) => commandLine top name rest
  | none => .error (if top.values.isEmpty then .nothingGiven else .missingCommand)

end Rulebook.Command
