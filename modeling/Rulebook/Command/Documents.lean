import Rulebook.Challenge.Challenger
import Rulebook.Command.Directory
import Rulebook.Command.Invocation
import Rulebook.Filter.Engine
import Rulebook.Json.Pointer
import Rulebook.Text.Lines

/-!
# Documents

The documents of an input file: its content as one JSON text, or every line as one; then of each the part
that a pointer names; then everything that a filter gives for it.
-/

namespace Rulebook.Command

open Json (Value ReadError)

/-- Why a file gives no documents. -/
inductive DocumentFault where
  | unreadable (error : FileError)
  | notText (fault : Utf8.Fault)
  /-- The line with this number from one is no JSON text. -/
  | badLine (number : Nat) (error : ReadError)
  | badText (error : ReadError)
  | nothingAt (pointer : String)
  /-- The filter gives nothing for a document, as the engine reports. -/
  | badFilter (report : String)
  deriving DecidableEq, Repr

/-- A reading error with the sentence repeated that says what is wrong and where. -/
def readReport (e : ReadError) : String := e.message ++ ": " ++ e.detail

/-- The report of a fault in the file of a path. -/
def DocumentFault.message (path : String) : DocumentFault → String
  | .unreadable e => s!"failed to read {path}: {e.message}"
  | .notText fault => s!"{path} is not UTF-8: {fault.message}"
  | .badLine number e => s!"{path} line {number}: {readReport e}"
  | .badText e => s!"failed to parse {path}: {readReport e}"
  | .nothingAt pointer => s!"JSON pointer {pointer} matched nothing in {path}"
  | .badFilter report => s!"failed to apply jq expression to {path}: {report}"

/-- The documents of lines, the first of which has this number. Blank lines are none. -/
def lineDocuments : Nat → List (List Char) → Except DocumentFault (List Value)
  | _, [] => .ok []
  | number, line :: rest =>
    if Text.isBlankLine line then lineDocuments (number + 1) rest
    else
      match Value.ofBytes (Utf8.encode line) with
      | .error e => .error (.badLine number e)
      | .ok v => do
        let others ← lineDocuments (number + 1) rest
        .ok (v :: others)

/-- The documents of a content. -/
def contentDocuments (byLine : Bool) (content : List UInt8) : Except DocumentFault (List Value) :=
  if byLine then
    match Utf8.decode content with
    | .error fault => .error (.notText fault)
    | .ok cs => lineDocuments 1 (Text.lines cs)
  else
    match Value.ofBytes content with
    | .error e => .error (.badText e)
    | .ok v => .ok [v]

/-- The parts of documents that a pointer names. -/
def pointedAt (pointer : String) : List Value → Except DocumentFault (List Value)
  | [] => .ok []
  | v :: rest =>
    match v.at? pointer with
    | none => .error (.nothingAt pointer)
    | some part => do
      let others ← pointedAt pointer rest
      .ok (part :: others)

variable [FilterEngine]

/-- What a filter gives for documents. -/
def filtered (filter : String) : List Value → Except DocumentFault (List Value)
  | [] => .ok []
  | v :: rest =>
    match FilterEngine.apply filter v with
    | .error report => .error (.badFilter report)
    | .ok outputs => do
      let others ← filtered filter rest
      .ok (outputs ++ others)

/-- The documents of a content under some settings. -/
def InputSettings.documentsOf (s : InputSettings) (content : List UInt8) :
    Except DocumentFault (List Value) := do
  let vs ← contentDocuments s.byLine content
  let vs ← match s.pointer with
    | none => .ok vs
    | some pointer => pointedAt pointer vs
  match s.filter with
  | none => .ok vs
  | some filter => filtered filter vs

/-- The documents of the file of a path. -/
def InputSettings.documents (s : InputSettings) (d : Directory) (path : String) :
    Except DocumentFault (List Value) :=
  match d.read path with
  | .error e => .error (.unreadable e)
  | .ok content => s.documentsOf content

end Rulebook.Command
