import Rulebook.Association
import Rulebook.Binary64

/-!
# JSON values

A JSON value as the reader produces it. Objects keep the order of their members, and their keys are
distinct. Integers and binary64 numbers are different values: `1` is an integer, `1.0` is not.
-/

namespace Rulebook.Json

/-- A JSON number. -/
inductive Number where
  /-- A number written without fraction and exponent that fits 64 bits, signed or unsigned. -/
  | int (i : Int)
  /-- Any other number. -/
  | float (x : Binary64)
  deriving DecidableEq, Repr

/-- The least integer that is read as one. -/
def Number.least : Int := -0x8000000000000000

/-- One above the greatest integer that is read as one. -/
def Number.ceiling : Int := 0x10000000000000000

namespace Number

/-- Whether the number is an integer, by its representation and not by its value. -/
def isInt : Number → Bool
  | .int _ => true
  | .float _ => false

/-- Whether the number is a binary64 number, by its representation and not by its value. -/
def isFloat : Number → Bool
  | .int _ => false
  | .float _ => true

/-- The number as a signed 64-bit integer. -/
def signed64? : Number → Option Int
  | .int i => if Number.least ≤ i ∧ i < 0x8000000000000000 then some i else none
  | .float _ => none

/-- The number as an unsigned 64-bit integer. -/
def unsigned64? : Number → Option Nat
  | .int i => if 0 ≤ i ∧ i < Number.ceiling then some i.toNat else none
  | .float _ => none

/-- The number in binary64, rounded to nearest. -/
def toBinary64 : Number → Binary64
  | .int i => Binary64.ofInt i
  | .float x => x

/-- Order of two numbers: as signed integers if both are, else as unsigned ones if both are, and in
binary64 otherwise. -/
def compare (a b : Number) : Ordering :=
  match a.signed64?, b.signed64? with
  | some i, some j => Ord.compare i j
  | _, _ =>
    match a.unsigned64?, b.unsigned64? with
    | some m, some n => Ord.compare m n
    | _, _ => a.toBinary64.compare b.toBinary64

/-- How the number compares with zero, in binary64. -/
def sign (n : Number) : Ordering := n.toBinary64.sign

/-- Two numbers are one value if they have one representation and are numerically equal. -/
def same : Number → Number → Bool
  | .int i, .int j => i == j
  | .float x, .float y => x.sameNumber y
  | _, _ => false

end Number

/-- A JSON value. -/
inductive Value where
  | null
  | bool (b : Bool)
  | number (n : Number)
  | string (s : String)
  | array (items : List Value)
  | object (members : List (String × Value))
  deriving Inhabited, Repr

/-- The members of a JSON object, in order. -/
abbrev Members := List (String × Value)

namespace Value

/-- Whether the value is `null`. -/
def isNull : Value → Bool
  | .null => true
  | _ => false

/-- The Boolean that the value is. -/
def bool? : Value → Option Bool
  | .bool b => some b
  | _ => none

/-- The string that the value is. -/
def string? : Value → Option String
  | .string s => some s
  | _ => none

/-- The number that the value is. -/
def number? : Value → Option Number
  | .number n => some n
  | _ => none

/-- The unsigned 64-bit integer that the value is. -/
def count? : Value → Option Nat
  | .number n => n.unsigned64?
  | _ => none

mutual

/-- Equality of values: members of objects count without their order. -/
def same : Value → Value → Bool
  | .null, .null => true
  | .bool a, .bool b => a == b
  | .number a, .number b => a.same b
  | .string a, .string b => a == b
  | .array a, .array b => sameItems a b
  | .object a, .object b => a.length == b.length && boundIn a b
  | _, _ => false

/-- Equality of lists of values, item by item. -/
def sameItems : List Value → List Value → Bool
  | [], [] => true
  | a :: as, b :: bs => a.same b && sameItems as bs
  | _, _ => false

/-- Whether every member of the first object is a member of the second one. -/
def boundIn : Members → Members → Bool
  | [], _ => true
  | (key, a) :: rest, other =>
    (match Association.lookup key other with
      | some b => a.same b
      | none => false) && boundIn rest other

end

/-- Whether the value is one of a list, by equality of values. -/
def memberOf (v : Value) (values : List Value) : Bool :=
  values.any fun w => w.same v

end Value

end Rulebook.Json
