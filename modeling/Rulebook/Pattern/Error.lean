import Rulebook.Text.Lines

/-!
# Errors in patterns

An error of a pattern points at the part of the pattern that causes it. The report shows the pattern
with carets under that part; a pattern of several lines is shown with line numbers.
-/

namespace Rulebook.Pattern

/-- A place in a pattern: line and column count from one, in characters. -/
structure Place where
  line : Nat
  column : Nat
  deriving DecidableEq, Repr

/-- A part of a pattern, from its first place to the place behind it. -/
structure Span where
  start : Place
  stop : Place
  deriving DecidableEq, Repr

/-- What is wrong with a pattern. -/
inductive Fault where
  | classEscapeInvalid
  | classRangeInvalid
  | classRangeLiteral
  | classUnclosed
  | decimalEmpty
  | decimalInvalid
  | hexEmpty
  | hexInvalid
  | hexInvalidDigit
  | escapeUnfinished
  | escapeUnrecognized
  | flagDanglingNegation
  | flagDuplicate (first : Span)
  | flagRepeatedNegation (first : Span)
  | flagUnfinished
  | flagUnrecognized
  | groupNameDuplicate (first : Span)
  | groupNameEmpty
  | groupNameInvalid
  | groupNameUnfinished
  | groupUnclosed
  | groupUnopened
  | nestedTooDeep (limit : Nat)
  | countRangeInvalid
  | countEmpty
  | countUnclosed
  | repetitionMissing
  | boundaryUnclosed
  | boundaryUnrecognized
  | boundaryOrCountUnfinished
  | propertyInvalid
  | backreference
  | lookAround
  | unicodeNotAllowed
  | invalidUtf8
  | propertyNotFound
  | propertyValueNotFound
  deriving DecidableEq, Repr

/-- The sentence that says what is wrong. -/
def Fault.message : Fault → String
  | .classEscapeInvalid => "invalid escape sequence found in character class"
  | .classRangeInvalid => "invalid character class range, the start must be <= the end"
  | .classRangeLiteral => "invalid range boundary, must be a literal"
  | .classUnclosed => "unclosed character class"
  | .decimalEmpty => "decimal literal empty"
  | .decimalInvalid => "decimal literal invalid"
  | .hexEmpty => "hexadecimal literal empty"
  | .hexInvalid => "hexadecimal literal is not a Unicode scalar value"
  | .hexInvalidDigit => "invalid hexadecimal digit"
  | .escapeUnfinished => "incomplete escape sequence, reached end of pattern prematurely"
  | .escapeUnrecognized => "unrecognized escape sequence"
  | .flagDanglingNegation => "dangling flag negation operator"
  | .flagDuplicate _ => "duplicate flag"
  | .flagRepeatedNegation _ => "flag negation operator repeated"
  | .flagUnfinished => "expected flag but got end of regex"
  | .flagUnrecognized => "unrecognized flag"
  | .groupNameDuplicate _ => "duplicate capture group name"
  | .groupNameEmpty => "empty capture group name"
  | .groupNameInvalid => "invalid capture group character"
  | .groupNameUnfinished => "unclosed capture group name"
  | .groupUnclosed => "unclosed group"
  | .groupUnopened => "unopened group"
  | .nestedTooDeep limit =>
    s!"exceed the maximum number of nested parentheses/brackets ({limit})"
  | .countRangeInvalid => "invalid repetition count range, the start must be <= the end"
  | .countEmpty => "repetition quantifier expects a valid decimal"
  | .countUnclosed => "unclosed counted repetition"
  | .repetitionMissing => "repetition operator missing expression"
  | .boundaryUnclosed =>
    "special word boundary assertion is either unclosed or contains an invalid character"
  | .boundaryUnrecognized =>
    "unrecognized special word boundary assertion, valid choices are: start, end, start-half "
      ++ "or end-half"
  | .boundaryOrCountUnfinished =>
    "found either the beginning of a special word boundary or a bounded repetition on a \\b with "
      ++ "an opening brace, but no closing brace"
  | .propertyInvalid => "invalid Unicode character class"
  | .backreference => "backreferences are not supported"
  | .lookAround => "look-around, including look-ahead and look-behind, is not supported"
  | .unicodeNotAllowed => "Unicode not allowed here"
  | .invalidUtf8 => "pattern can match invalid UTF-8"
  | .propertyNotFound => "Unicode property not found"
  | .propertyValueNotFound => "Unicode property value not found"

/-- A second part of the pattern that the fault involves. -/
def Fault.related? : Fault → Option Span
  | .flagDuplicate first => some first
  | .flagRepeatedNegation first => some first
  | .groupNameDuplicate first => some first
  | _ => none

/-- An error of a pattern. -/
inductive Error where
  /-- The text of the pattern is faulty at a span. -/
  | malformed (pattern : List Char) (span : Span) (fault : Fault)
  /-- The pattern stands for a machine larger than the limit, in bytes. -/
  | tooLarge (limit : Nat)
  deriving DecidableEq, Repr

/-- Whether a place comes before another one, or is the same. -/
def Place.precedes (a b : Place) : Bool :=
  a.line < b.line || (a.line == b.line && a.column ≤ b.column)

/-- Whether a span comes before another one in the order of their starts. -/
def Span.precedes (a b : Span) : Bool :=
  if a.start = b.start then a.stop.precedes b.stop else a.start.precedes b.start

/-- Two spans in order. -/
def inOrder (a : Span) (b? : Option Span) : List Span :=
  match b? with
  | none => [a]
  | some b => if a.precedes b then [a, b] else [b, a]

/-- Carets under the spans of a line, from a column on. An empty span has one caret. -/
def carets (column : Nat) : List Span → List Char
  | [] => []
  | s :: rest =>
    let blanks := s.start.column - column
    let length := max 1 (s.stop.column - s.start.column)
    List.replicate blanks ' ' ++ List.replicate length '^'
      ++ carets (column + blanks + length) rest

/-- The spans that lie within a line. -/
def spansOn (line : Nat) (spans : List Span) : List Span :=
  spans.filter fun s => s.start.line == s.stop.line && s.start.line == line

/-- The lines of the pattern with carets, from a line number on. `width` is the width of the line
numbers, zero if none are shown. -/
def notated (width : Nat) (spans : List Span) : (line : Nat) → List (List Char) → List Char
  | _, [] => []
  | line, text :: rest =>
    let digits := Nat.toDigits 10 line
    let margin :=
      if width = 0 then List.replicate 4 ' '
      else List.replicate (width - digits.length) ' ' ++ digits ++ [':', ' ']
    let marks := match spansOn line spans with
      | [] => []
      | here => List.replicate margin.length ' ' ++ carets 1 here ++ ['\n']
    margin ++ text ++ '\n' :: marks ++ notated width spans (line + 1) rest

/-- The sentence on a span that covers several lines. -/
def Span.lineNote (s : Span) : String :=
  s!"on line {s.start.line} (column {s.start.column}) through line {s.stop.line} "
    ++ s!"(column {s.stop.column - 1})"

/-- The report of a malformed pattern. -/
def report (pattern : List Char) (span : Span) (fault : Fault) : String :=
  let spans := inOrder span fault.related?
  let lines := Text.lines pattern
  let lineCount := lines.length + (if pattern.getLast? = some '\n' then 1 else 0)
  let width := if lineCount ≤ 1 then 0 else (Nat.toDigits 10 lineCount).length
  let text := String.ofList (notated width spans 1 lines)
  let notes := (spans.filter fun s => s.start.line != s.stop.line).map Span.lineNote
  if pattern.contains '\n' then
    let divider := String.ofList (List.replicate 79 '~') ++ "\n"
    "regex parse error:\n" ++ divider ++ text ++ divider
      ++ (if notes.isEmpty then "" else "\n".intercalate notes ++ "\n")
      ++ "error: " ++ fault.message
  else "regex parse error:\n" ++ text ++ "error: " ++ fault.message

/-- The report of an error. -/
def Error.message : Error → String
  | .malformed pattern span fault => report pattern span fault
  | .tooLarge limit => s!"Compiled regex exceeds size limit of {limit} bytes."

end Rulebook.Pattern
