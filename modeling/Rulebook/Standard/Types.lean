import Rulebook.Rule.Provider
import Rulebook.Unicode.Digit

/-!
# Types of subjects

The tests of the type-checking rules. They are safe on every subject that is not `null`.
-/

namespace Rulebook.Standard

open Json (Value)

/-- The kind of container that a value is. -/
def containerKind : Value → Option ContainerKind
  | .array _ => some .list
  | .object _ => some .map
  | _ => none

/-- Whether a value is an integer by its representation. -/
def isInteger : Value → Bool
  | .number n => n.isInt
  | _ => false

/-- Whether a value is a number with a fraction or an exponent, by its representation. -/
def isFloat : Value → Bool
  | .number n => n.isFloat
  | _ => false

/-- Booleans. -/
def isBoolean : Value → Bool
  | .bool _ => true
  | _ => false

/-- Numbers, integers and floats alike. -/
def isNumber : Value → Bool
  | .number _ => true
  | _ => false

/-- Strings. -/
def isString : Value → Bool
  | .string _ => true
  | _ => false

/-- Strings and numbers. -/
def isStringable (v : Value) : Bool := isString v || isNumber v

/-- Booleans, numbers and strings. -/
def isScalar (v : Value) : Bool := isBoolean v || isNumber v || isString v

/-- Whether a text is one decimal digit or more. -/
def areDigits (s : List Char) : Bool := !s.isEmpty && s.all Unicode.isDecimalDigit

/-- The text behind a minus sign, if it has one. -/
def withoutMinus : List Char → List Char
  | '-' :: rest => rest
  | s => s

/-- The texts of integers: digits, with a minus sign or without. -/
def isIntegerText (s : List Char) : Bool := areDigits (withoutMinus s)

/-- The texts of decimal fractions: digits or none, a point, and digits. -/
def isFractionText (s : List Char) : Bool :=
  match (withoutMinus s).dropWhile Unicode.isDecimalDigit with
  | '.' :: fraction => areDigits fraction
  | _ => false

/-- The texts of numbers: digits, and a fraction or none; or a fraction alone. -/
def isNumberText (s : List Char) : Bool :=
  let s := withoutMinus s
  match s.dropWhile Unicode.isDecimalDigit with
  | [] => !s.isEmpty
  | '.' :: fraction => areDigits fraction
  | _ => false

/-- Numbers and the texts of numbers. -/
def isNumeric : Value → Bool
  | .number _ => true
  | .string s => isNumberText s.toList
  | _ => false

/-- Integers and the texts of integers. -/
def isDigital : Value → Bool
  | .number n => n.isInt
  | .string s => isIntegerText s.toList
  | _ => false

/-- Floats and the texts of decimal fractions. -/
def isDecimal : Value → Bool
  | .number n => n.isFloat
  | .string s => isFractionText s.toList
  | _ => false

/-- The verdict on a container of any kind. -/
def containerVerdict (v : Value) : Verdict :=
  match containerKind v with
  | some kind => .container kind
  | none => .fail

/-- The verdict on an array. -/
def arrayVerdict : Value → Verdict
  | .array _ => .container .list
  | _ => .fail

/-- The verdict on an object. -/
def objectVerdict : Value → Verdict
  | .object _ => .container .map
  | _ => .fail

/-- Whether a subject counts as empty: `null`, the empty text, and containers without entries. -/
def isEmpty : Value → Bool
  | .null => true
  | .string s => s.isEmpty
  | .array items => items.isEmpty
  | .object members => members.isEmpty
  | .bool _ => false
  | .number _ => false

end Rulebook.Standard
