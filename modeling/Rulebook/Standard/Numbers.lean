import Rulebook.Standard.Arguments

/-!
# Rules for numbers

Signs, bounds, decimal places and widths. Two integers are compared exactly over the whole range of
signed and unsigned 64-bit integers. Subjects that are not numbers fail.
-/

namespace Rulebook.Standard

open Json (Value Number)

/-- The sign of a subject that is a number. -/
def sign? : Value → Option Ordering
  | .number n => some n.sign
  | _ => none

/-- Whether a subject is a number above zero. -/
def isPositive (v : Value) : Bool := sign? v == some .gt

/-- Whether a subject is a number not below zero. -/
def isNonNegative (v : Value) : Bool := (sign? v).any Ordering.isGE

/-- Whether a subject is a number below zero. -/
def isNegative (v : Value) : Bool := sign? v == some .lt

/-- Whether a subject is a number not below a bound. -/
def isAtLeast (bound : Number) : Value → Bool
  | .number n => (n.compare bound).isGE
  | _ => false

/-- Whether a subject is a number not above a bound. -/
def isAtMost (bound : Number) : Value → Bool
  | .number n => (n.compare bound).isLE
  | _ => false

/-- The lower bound counts in. -/
def minimum (v : Value) (args : List Value) : Answer Bool := do
  let bound ← numberArgument "min" args 0
  return isAtLeast bound v

/-- The upper bound counts in. -/
def maximum (v : Value) (args : List Value) : Answer Bool := do
  let bound ← numberArgument "max" args 0
  return isAtMost bound v

/-- Both bounds count in; inverted bounds are an error, whatever the subject. -/
def inRange (v : Value) (args : List Value) : Answer Bool := do
  let low ← numberArgument "range" args 0
  let high ← numberArgument "range" args 1
  if low.compare high = .gt then
    .error (.badArgument "range" (ArgumentFault.invertedRange low high).message)
  else return isAtLeast low v && isAtMost high v

/-! ## Decimal places -/

/-- The number that the text of an exponent stands for, with a sign or without. -/
def exponentValue (s : List Char) : Int :=
  let digits := s.dropWhile fun c => c == '-' || c == '+'
  let n : Nat := digits.foldl (fun n c => 10 * n + (c.toNat - 48)) 0
  if s.head? == some '-' then -n else n

/-- The text without the zeros at its end. -/
def withoutTrailingZeros (s : List Char) : List Char :=
  (s.reverse.dropWhile (· == '0')).reverse

/-- The digits behind the point of a number's text, and its exponent. -/
def fractionAndExponent (s : List Char) : List Char × Int :=
  let mantissa := s.takeWhile (· != 'e')
  let exponent := (s.drop mantissa.length).drop 1
  ((mantissa.dropWhile (· != '.')).drop 1, exponentValue exponent)

/-- The number of decimal places of a number, read off its text. -/
def placesOfText (s : List Char) : Nat :=
  let (fraction, exponent) := fractionAndExponent s
  ((withoutTrailingZeros fraction).length - exponent).toNat

/-- The number of decimal places of a number; an integer has none. -/
def decimals : Number → Nat
  | .int _ => 0
  | .float x => placesOfText (Json.binary64Text x)

/-- Whether a subject is a number with at most so many decimal places. -/
def withinDecimals (v : Value) (args : List Value) : Answer Bool := do
  let limit ← countArgument "maxDecimals" args 0
  match v with
  | .number n => return decimals n ≤ limit
  | _ => return false

/-! ## Widths -/

/-- Whether a subject is an integer of so many bits with a sign. -/
def fitsSigned (bits : Nat) : Value → Bool
  | .number (.int i) =>
    -(Nat.pow 2 (bits - 1) : Nat) ≤ i && i < (Nat.pow 2 (bits - 1) : Nat)
  | _ => false

end Rulebook.Standard
