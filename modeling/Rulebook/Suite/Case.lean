import Rulebook.Challenge.Record
import Rulebook.Json.Typed

/-!
# Suites of cases

A suite gives one description of a ruleset and cases: subjects with the verdict that is expected of them,
and, if a case states one, with the expected lines of the record.
-/

namespace Rulebook

open Json (Value Path Reader ReadError)
open Json.Reader (FieldReader)

/-- A subject with what is expected of it. -/
structure Case where
  name : Option String
  subject : Value
  expect : Bool
  /-- The lines of the record, if they are stated. -/
  record : Option (List String)
  deriving Repr

/-- A description of a ruleset with cases for it. -/
structure Suite where
  rules : Value
  mode : RecordMode
  cases : List Case
  deriving Repr

/-- The names of the record modes. Two of them have a second name. -/
def RecordMode.names : List (String × RecordMode) :=
  [("off", .off), ("first", .first), ("stopAtFirst", .first), ("all", .all), ("continue", .all)]

/-- The mode of a name. -/
def RecordMode.ofName? (name : String) : Option RecordMode :=
  Association.lookup name RecordMode.names

namespace Case

/-- A case before any of its fields has been read. -/
def blank : Case := ⟨none, .null, false, none⟩

/-- The fields of a case. -/
def fields : List (FieldReader Case) :=
  [⟨"name", false, fun _ path => do
      let name ← Reader.optional Reader.text path
      return fun c => { c with name := name }⟩,
    ⟨"subject", true, fun levels path => do
      let subject ← Reader.value levels path
      return fun c => { c with subject := subject }⟩,
    ⟨"expect", true, fun _ path => do
      let expect ← Reader.boolean path
      return fun c => { c with expect := expect }⟩,
    ⟨"record", false, fun levels path => do
      let record ← Reader.optional (Reader.listOf (fun _ => Reader.text) levels) path
      return fun c => { c with record := record }⟩]

/-- Reads a case. -/
def reader (levels : Nat) (path : Path) : Reader Case :=
  Reader.structured fields "Case" blank levels path

end Case

namespace Suite

/-- A suite before any of its fields has been read. Unless it says otherwise, first failures are recorded. -/
def blank : Suite := ⟨.null, .first, []⟩

/-- The fields of a suite. -/
def fields : List (FieldReader Suite) :=
  [⟨"rules", true, fun levels path => do
      let rules ← Reader.value levels path
      return fun s => { s with rules := rules }⟩,
    ⟨"record", false, fun levels path => do
      let mode ← Reader.variant RecordMode.names levels path
      return fun s => { s with mode := mode }⟩,
    ⟨"cases", true, fun levels path => do
      let cases ← Reader.listOf Case.reader levels path
      return fun s => { s with cases := cases }⟩]

/-- Reads a suite. -/
def reader (levels : Nat) (path : Path) : Reader Suite :=
  Reader.structured fields "SuiteFile" blank levels path

/-- The suite of a text. What follows it is not looked at. -/
def ofBytes (bytes : List UInt8) : Except ReadError Suite :=
  (reader Reader.nestingLimit []).runOn bytes

/-- The suite of a text. -/
def ofText (text : String) : Except ReadError Suite := ofBytes (Utf8.encode text.toList)

end Suite

end Rulebook
