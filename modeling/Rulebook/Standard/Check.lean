import Rulebook.Pattern.Engine
import Rulebook.Standard.Calendar
import Rulebook.Standard.NetAddress
import Rulebook.Standard.Numbers
import Rulebook.Standard.Rule
import Rulebook.Standard.Sizes
import Rulebook.Standard.Texts
import Rulebook.Standard.Types

/-!
# Running the standard rules

One test for every rule. Only rules with arguments can err, and they do so before they look at the
subject.
-/

namespace Rulebook.Standard

open Json (Value)

section Patterns

variable [PatternEngine]

/-- The test of the pattern that a rule has as its first argument. -/
def patternArgument (args : List Value) : Answer (List Char → Bool) := do
  match PatternEngine.compile (← textArgument "regex" args 0) with
  | .ok test => .ok test
  | .error report => .error (.badArgument "regex" (ArgumentFault.malformedPattern report).message)

/-- The text that a pattern is matched against: a string itself, or the text of a number. -/
def matchedText? : Value → Option (List Char)
  | .string s => some s.toList
  | .number n => some n.text
  | _ => none

/-- Whether a subject matches the pattern in the arguments. -/
def matchesPattern (v : Value) (args : List Value) : Answer Bool := do
  let test ← patternArgument args
  return (matchedText? v).any test

end Patterns

end Rulebook.Standard

namespace Rulebook.StandardRule

open Json (Value)
open Standard

/-- A rule that needs no arguments. -/
def plain (test : Value → Bool) (v : Value) : Answer Verdict := .ok (.of (test v))

/-- A rule that reads its arguments. -/
def tested (answer : Answer Bool) : Answer Verdict := Verdict.of <$> answer

variable [PatternEngine]

/-- Runs a rule on a subject. -/
def check (r : StandardRule) (v : Value) (args : List Value) : Answer Verdict :=
  match r with
  | .boolean => plain isBoolean v
  | .number => plain isNumber v
  | .integer => plain isInteger v
  | .float => plain isFloat v
  | .string => plain isString v
  | .stringableScalar => plain isStringable v
  | .scalar => plain isScalar v
  | .numeric => plain isNumeric v
  | .digital => plain isDigital v
  | .decimal => plain isDecimal v
  | .loopable => .ok (containerVerdict v)
  | .indexedArray => .ok (arrayVerdict v)
  | .keyedArray => .ok (objectVerdict v)
  | .positive => plain isPositive v
  | .nonNegative => plain isNonNegative v
  | .negative => plain isNegative v
  | .min => tested (minimum v args)
  | .max => tested (maximum v args)
  | .range => tested (inRange v args)
  | .maxDecimals => tested (withinDecimals v args)
  | .bit32 => plain (fitsSigned 32) v
  | .bit64 => plain (fitsSigned 64) v
  | .minSize => tested (measured "minSize" size? atLeast v args)
  | .maxSize => tested (measured "maxSize" size? atMost v args)
  | .exactSize => tested (measured "exactSize" size? exactly v args)
  | .regex => tested (matchesPattern v args)
  | .unicodeMinLength => tested (measured "unicodeMinLength" codePoints? atLeast v args)
  | .unicodeMaxLength => tested (measured "unicodeMaxLength" codePoints? atMost v args)
  | .unicodeExactLength => tested (measured "unicodeExactLength" codePoints? exactly v args)
  | .minLength => tested (measured "minLength" byteLength? atLeast v args)
  | .maxLength => tested (measured "maxLength" byteLength? atMost v args)
  | .exactLength => tested (measured "exactLength" byteLength? exactly v args)
  | .unicodePrintable => plain (onText isPrintable) v
  | .unicodeMultiLine => plain (onText isMultiLine) v
  | .ascii => plain (onText isAscii) v
  | .asciiPrintable => plain (onText isAsciiPrintable) v
  | .asciiMultiLine => plain (onText isAsciiMultiLine) v
  | .plainText => plain (onText isPlain) v
  | .hex => plain (onText isHex) v
  | .alphaNum => plain (onText isAlphaNum) v
  | .identifier => plain (onText isName) v
  | .camelName => plain (onText isCamelName) v
  | .snakeName => plain (onText isSnakeName) v
  | .lispName => plain (onText isLispName) v
  | .uuid => plain (onText isUuid) v
  | .base64 => plain (onText isBase64) v
  | .ipAddress => plain (onText isIpAddress) v
  | .url => plain (onText isUrl) v
  | .httpUrl => plain (onText isHttpUrl) v
  | .email => plain (onText isEmail) v
  | .dateIso8601 => plain (onText Calendar.isDateText) v
  | .timeIso8601 => plain (onText Calendar.isTimeText) v
  | .dateTimeIso8601 => plain (onText Calendar.isDateTimeText) v
  | .dateTimeIso8601Zonal => plain (onText Calendar.isZonalText) v

/-- Whether the arguments of a rule can be used; only patterns are looked at. -/
def prepare (r : StandardRule) (args : List Value) : Answer Unit :=
  match r with
  | .regex => do let _ ← patternArgument args
  | _ => .ok ()

end Rulebook.StandardRule
