import Rulebook.Json.Cursor
import Rulebook.Text.Ticked

/-!
# Errors of reading JSON

An error of reading says what is wrong, at which line and column, and at which path of the value that
was being read.
-/

namespace Rulebook.Json

open Text (ticked)

/-- One step of a path into a value. -/
inductive Step where
  /-- A member of an object. -/
  | key (name : String)
  /-- An item of an array. -/
  | index (i : Nat)
  /-- The content of an alternative. -/
  | variant (name : String)
  /-- A member whose key is not known. -/
  | unknown
  deriving DecidableEq, Repr

/-- A path into a value, outermost step first. -/
abbrev Path := List Step

/-- The text of a step. -/
def Step.text : Step → String
  | .key name => name
  | .index i => s!"[{i}]"
  | .variant name => name
  | .unknown => "?"

/-- Whether a step is set off by a dot from the step before it. -/
def Step.isDotted : Step → Bool
  | .index _ => false
  | _ => true

/-- The text of the steps that follow another one. -/
def laterSteps : Path → String
  | [] => ""
  | s :: rest => (if s.isDotted then "." else "") ++ s.text ++ laterSteps rest

/-- The text of a path; the empty path is a lone dot. -/
def pathText : Path → String
  | [] => "."
  | s :: rest => s.text ++ laterSteps rest

/-- What is wrong with the text that is read. -/
inductive ReadFault where
  | endInValue
  | endInArray
  | endInObject
  | endInString
  | expectedValue
  | expectedIdentifier
  | invalidNumber
  | numberOutOfRange
  | expectedCommaOrBracket
  | expectedCommaOrBrace
  | expectedColon
  | trailingComma
  | trailingCharacters
  | keyNotString
  | invalidEscape
  | unexpectedEndOfHexEscape
  | loneSurrogate
  | invalidUnicode
  | controlCharacter
  | tooDeep
  /-- A value of another type than the expected one; `found` describes the value. -/
  | invalidType (found expected : String)
  /-- An array with too few items for the fields that it stands for. -/
  | invalidLength (length : Nat) (expected : String)
  | missingField (name : String)
  | unknownField (name : String) (fields : List String)
  | duplicateField (name : String)
  | unknownVariant (name : String) (variants : List String)
  deriving DecidableEq, Repr

/-- The list of names that may stand in a place. -/
def oneOf : List String → String
  | [a] => ticked a
  | [a, b] => ticked a ++ " or " ++ ticked b
  | names => "one of " ++ ", ".intercalate (names.map ticked)

/-- The sentence that says what is wrong. -/
def ReadFault.message : ReadFault → String
  | .endInValue => "EOF while parsing a value"
  | .endInArray => "EOF while parsing a list"
  | .endInObject => "EOF while parsing an object"
  | .endInString => "EOF while parsing a string"
  | .expectedValue => "expected value"
  | .expectedIdentifier => "expected ident"
  | .invalidNumber => "invalid number"
  | .numberOutOfRange => "number out of range"
  | .expectedCommaOrBracket => "expected " ++ ticked "," ++ " or " ++ ticked "]"
  | .expectedCommaOrBrace => "expected " ++ ticked "," ++ " or " ++ ticked "\x7d"
  | .expectedColon => "expected " ++ ticked ":"
  | .trailingComma => "trailing comma"
  | .trailingCharacters => "trailing characters"
  | .keyNotString => "key must be a string"
  | .invalidEscape => "invalid escape"
  | .unexpectedEndOfHexEscape => "unexpected end of hex escape"
  | .loneSurrogate => "lone leading surrogate in hex escape"
  | .invalidUnicode => "invalid unicode code point"
  | .controlCharacter => "control character (\\u0000-\\u001F) found while parsing a string"
  | .tooDeep => "recursion limit exceeded"
  | .invalidType found expected => s!"invalid type: {found}, expected {expected}"
  | .invalidLength length expected => s!"invalid length {length}, expected {expected}"
  | .missingField name => "missing field " ++ ticked name
  | .unknownField name fields => "unknown field " ++ ticked name ++ ", expected " ++ oneOf fields
  | .duplicateField name => "duplicate field " ++ ticked name
  | .unknownVariant name variants =>
    "unknown variant " ++ ticked name ++ ", expected " ++ oneOf variants

/-- An error of reading. -/
structure ReadError where
  path : Path
  fault : ReadFault
  position : Position
  deriving DecidableEq, Repr

/-- What is wrong and where in the text, without the path. -/
def ReadError.detail (e : ReadError) : String :=
  s!"{e.fault.message} at line {e.position.line} column {e.position.column}"

/-- The whole report of an error. -/
def ReadError.message (e : ReadError) : String :=
  s!"at JSON path {pathText e.path} → {e.detail}"

end Rulebook.Json
