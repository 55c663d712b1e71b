import Rulebook.Rule.Provider

/-!
# Arguments of the standard rules

A rule reads its arguments when it is run, so that a fault of an argument is an error of the run.
-/

namespace Rulebook

open Json (Value Number)

/-- What a standard rule finds wrong with its arguments, which count from one. -/
inductive ArgumentFault where
  | missing (index : Nat)
  | notNumber (index : Nat) (found : Value)
  | notCount (index : Nat)
  | notText (index : Nat)
  | invertedRange (low high : Number)
  /-- The pattern does not compile, as the engine reports. -/
  | malformedPattern (report : String)
  deriving Repr

/-- The sentence that says what is wrong. -/
def ArgumentFault.message : ArgumentFault → String
  | .missing index => s!"missing argument {index}"
  | .notNumber index found => s!"argument {index} must be a number, got {found.text}"
  | .notCount index => s!"argument {index} must be a non-negative integer"
  | .notText index => s!"argument {index} must be a string"
  | .invertedRange low high =>
    s!"minimum {String.ofList low.text} exceeds maximum {String.ofList high.text}"
  | .malformedPattern report => s!"invalid pattern: {report}"

namespace Standard

/-- The answer of a standard rule. -/
abbrev Answer (α : Type) := Except ProviderError α

/-- The argument at an index from zero. -/
def argument (rule : String) (args : List Value) (i : Nat) : Answer Value :=
  match args[i]? with
  | some v => .ok v
  | none => .error (.badArgument rule (ArgumentFault.missing (i + 1)).message)

/-- The argument at an index as a number. -/
def numberArgument (rule : String) (args : List Value) (i : Nat) : Answer Number := do
  match ← argument rule args i with
  | .number n => .ok n
  | other => .error (.badArgument rule (ArgumentFault.notNumber (i + 1) other).message)

/-- The argument at an index as a count, which fits 64 bits without a sign. -/
def countArgument (rule : String) (args : List Value) (i : Nat) : Answer Nat := do
  match (← argument rule args i).count? with
  | some n => .ok n
  | none => .error (.badArgument rule (ArgumentFault.notCount (i + 1)).message)

/-- The argument at an index as a text. -/
def textArgument (rule : String) (args : List Value) (i : Nat) : Answer String := do
  match ← argument rule args i with
  | .string s => .ok s
  | _ => .error (.badArgument rule (ArgumentFault.notText (i + 1)).message)

end Standard

end Rulebook
