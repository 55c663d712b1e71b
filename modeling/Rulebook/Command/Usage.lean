import Rulebook.Association

/-!
# Arguments of a command line

A grammar lists the options and the commands that may be given. Arguments are taken one after the other:
options with their values, up to the name of a command. Values that stand on their own are kept until it
is clear that no more of them follow.
-/

namespace Rulebook.Command

/-- Why a command line is not run. -/
inductive UsageError where
  /-- Help was asked for. -/
  | help
  /-- The version was asked for. -/
  | version
  /-- Nothing was given where something has to be. -/
  | nothingGiven
  | missingCommand
  | unknownCommand
  | unknownArgument
  | missingArgument
  | repeatedArgument
  | invalidValue
  | tooManyValues
  deriving DecidableEq, Repr

/-- The report of an error. -/
def UsageError.message : UsageError → String
  | .help => "help was asked for"
  | .version => "rulebook 0.1.0"
  | .nothingGiven => "a command is required"
  | .missingCommand => "a command is required"
  | .unknownCommand => "unrecognized command"
  | .unknownArgument => "unexpected argument"
  | .missingArgument => "a required argument was not given"
  | .repeatedArgument => "an argument cannot be given several times"
  | .invalidValue => "invalid value for an argument"
  | .tooManyValues => "unexpected value for an argument"

/-- Whether the command line asked for a text only, which is no failure. -/
def UsageError.isRequest : UsageError → Bool
  | .help => true
  | .version => true
  | _ => false

/-- What an option does. -/
inductive Action where
  | help
  | version
  /-- Counts how often it is given. -/
  | count
  /-- Is given at most once, without a value. -/
  | switch
  /-- Is given at most once, with one value that is accepted. -/
  | single (accepts : String → Bool)
  /-- Is given with one or more values. -/
  | many

/-- Whether an option takes values. -/
def Action.takesValues : Action → Bool
  | .single _ => true
  | .many => true
  | _ => false

/-- An option. -/
structure Opt where
  short : Option Char
  long : String
  action : Action

/-- What may be given. -/
structure Grammar where
  options : List Opt
  commands : List String

/-- What has been given. -/
structure Given where
  /-- The values of options, by their long names. What takes no value has an empty one for each time. -/
  values : List (String × List String)
  /-- An option with the values that have followed it. -/
  pending : Option (Opt × List String)
  /-- Whether a value may follow. -/
  awaits : Bool

namespace Given

/-- Nothing has been given. -/
def nothing : Given := ⟨[], none, false⟩

/-- The values of an option. -/
def valuesOf (g : Given) (long : String) : List String :=
  (Association.lookup long g.values).getD []

/-- Whether an option has been given. -/
def has (g : Given) (long : String) : Bool := (Association.lookup long g.values).isSome

/-- Adds values of an option. -/
def append (g : Given) (long : String) (values : List String) : Given :=
  { g with values := Association.insert long (g.valuesOf long ++ values) g.values }

/-- Takes an option with its values. -/
def store (g : Given) (o : Opt) (values : List String) : Except UsageError Given :=
  match o.action with
  | .help => .error .help
  | .version => .error .version
  | .count => .ok (g.append o.long [""])
  | .switch => if g.has o.long then .error .repeatedArgument else .ok (g.append o.long [""])
  | .single accepts =>
    match values with
    | [] => .error .invalidValue
    | v :: _ =>
      if g.has o.long then .error .repeatedArgument
      else if accepts v then .ok (g.append o.long [v])
      else .error .invalidValue
  | .many => if values.isEmpty then .error .invalidValue else .ok (g.append o.long values)

/-- Takes the option whose values have been kept, if there is one. -/
def settle (g : Given) : Except UsageError Given :=
  match g.pending with
  | none => .ok g
  | some (o, values) => { g with pending := none, awaits := false }.store o values

/-- Takes an option, with the value that is attached to it. -/
def option (g : Given) (o : Opt) (attached : Option String) : Except UsageError Given := do
  let g ← g.settle
  match attached with
  | some v => g.store o [v]
  | none =>
    if o.action.takesValues then .ok { g with pending := some (o, []), awaits := true }
    else g.store o []

/-- Keeps a value of the option in front of it. -/
def value (g : Given) (v : String) : Given :=
  match g.pending with
  | none => g
  | some (o, values) =>
    { g with
      pending := some (o, values ++ [v])
      awaits := match o.action with
        | .many => true
        | _ => false }

end Given

/-- The text behind an equals sign at the start. -/
def withoutEquals (cs : List Char) : List Char :=
  match cs with
  | '=' :: rest => rest
  | cs => cs

namespace Grammar

/-- The option with a long name. -/
def long? (gr : Grammar) (name : String) : Option Opt :=
  gr.options.find? fun o => o.long == name

/-- The option with a letter. -/
def short? (gr : Grammar) (letter : Char) : Option Opt :=
  gr.options.find? fun o => o.short == some letter

/-- Takes an argument behind two hyphens: the name of an option, and a value behind an equals sign. -/
def long (gr : Grammar) (g : Given) (cs : List Char) : Except UsageError Given :=
  match gr.long? (String.ofList (cs.takeWhile (· != '='))) with
  | none => .error .unknownArgument
  | some o =>
    if cs.contains '=' then
      if o.action.takesValues then
        g.option o (some (String.ofList ((cs.dropWhile (· != '=')).drop 1)))
      else .error .tooManyValues
    else g.option o none

/-- Takes the letters behind one hyphen. What follows a letter that takes values is its value. -/
def letters (gr : Grammar) (g : Given) : List Char → Except UsageError Given
  | [] => .ok g
  | c :: rest =>
    match gr.short? c with
    | none => .error .unknownArgument
    | some o =>
      if o.action.takesValues then
        g.option o (if rest.isEmpty then none else some (String.ofList (withoutEquals rest)))
      else
        match g.option o none with
        | .error e => .error e
        | .ok g => gr.letters g rest

/-- Why an argument that is no option and no value is not taken. -/
def misplaced (gr : Grammar) (trailing : Bool) (argument : String) : UsageError :=
  if gr.commands.isEmpty || (trailing && gr.commands.contains argument) then .unknownArgument
  else .unknownCommand

/-- Takes arguments up to the name of a command. Two hyphens alone say that no options follow. -/
def take (gr : Grammar) (trailing : Bool) (g : Given) :
    List String → Except UsageError (Given × Option (String × List String))
  | [] => do return (← g.settle, none)
  | argument :: rest =>
    if trailing then .error (gr.misplaced true argument)
    else if !g.awaits && gr.commands.contains argument then do
      return (← g.settle, some (argument, rest))
    else
      match argument.toList with
      | ['-', '-'] => gr.take true g rest
      | '-' :: '-' :: cs => do gr.take false (← gr.long g cs) rest
      | '-' :: c :: cs => do gr.take false (← gr.letters g (c :: cs)) rest
      | _ =>
        if g.awaits then gr.take false (g.value argument) rest
        else .error (gr.misplaced false argument)

end Grammar

end Rulebook.Command
