/-!
# Finite binary64 numbers

A finite binary64 number is kept as its exact value: a sign, a significand below `2^53` and a power
of two. Rounding and comparison are done in exact integer arithmetic, so that no operation here
depends on the floating-point unit of the machine that runs it.
-/

namespace Rulebook

/-- The number `± significand * 2^exponent`. Zero keeps its sign, as binary64 does. -/
structure Binary64 where
  /-- Whether the number is written with a minus sign. -/
  negative : Bool
  /-- The integer that the power of two is applied to, below `2^53`. -/
  significand : Nat
  /-- The power of two, between `-1074` and `971`. -/
  exponent : Int
  deriving DecidableEq, Repr

namespace Binary64

/-- Bits of a full significand. -/
def precision : Nat := 53

/-- The least power of two; numbers below the normal range share it. -/
def leastExponent : Int := -1074

/-- The greatest power of two of a finite number. -/
def greatestExponent : Int := 971

/-- Zero with the given sign. -/
def zero (negative : Bool) : Binary64 := ⟨negative, 0, leastExponent⟩

/-- The numerator and denominator of `numerator / denominator * 2^(-power)`. -/
def scaled (numerator denominator : Nat) (power : Int) : Nat × Nat :=
  if power ≤ 0 then (numerator * Nat.pow 2 power.natAbs, denominator)
  else (numerator, denominator * Nat.pow 2 power.natAbs)

/-- The quotient of two numbers rounded to the nearest integer; a tie goes to the even one. -/
def roundedQuotient (numerator denominator : Nat) : Nat :=
  let quotient := numerator / denominator
  let twice := 2 * (numerator % denominator)
  if twice < denominator then quotient
  else if denominator < twice then quotient + 1
  else if quotient % 2 = 0 then quotient else quotient + 1

/-- The power of two at which a positive quotient has a full significand before rounding, never
below the least power. -/
def binade (numerator denominator : Nat) : Int :=
  let guess : Int := (Nat.log2 numerator : Int) - (Nat.log2 denominator : Int) - 52
  let (n, d) := scaled numerator denominator guess
  max leastExponent (if n / d < Nat.pow 2 52 then guess - 1 else guess)

/-- The number nearest to `± numerator / denominator`, a tie going to the even significand; `none`
when that exceeds every finite number. The denominator is positive. -/
def ofQuotient? (negative : Bool) (numerator denominator : Nat) : Option Binary64 :=
  if numerator = 0 then some (zero negative)
  else
    let power := binade numerator denominator
    let (n, d) := scaled numerator denominator power
    let significand := roundedQuotient n d
    let (significand, power) :=
      if significand = Nat.pow 2 precision then (Nat.pow 2 52, power + 1) else (significand, power)
    if greatestExponent < power then none else some ⟨negative, significand, power⟩

/-- The number nearest to a product. -/
def mul? (x y : Binary64) : Option Binary64 :=
  let (n, d) := scaled (x.significand * y.significand) 1 (-(x.exponent + y.exponent))
  ofQuotient? (x.negative != y.negative) n d

/-- The number nearest to a quotient. The divisor is not zero. -/
def div? (x y : Binary64) : Option Binary64 :=
  let (n, d) := scaled x.significand y.significand (y.exponent - x.exponent)
  ofQuotient? (x.negative != y.negative) n d

/-- The greatest power of ten that is a finite number has this exponent. -/
def greatestTen : Nat := 308

/-- The number nearest to a power of ten. -/
def powerOfTen? (exponent : Nat) : Option Binary64 := ofQuotient? false (Nat.pow 10 exponent) 1

/-- Divides by a power of ten: by the greatest one as many times as told, which leaves an exponent that is
not above it. Zero is not divided. -/
def divideByTen? : (rounds : Nat) → (exponent : Nat) → Binary64 → Option Binary64
  | 0, exponent, x => do x.div? (← powerOfTen? exponent)
  | rounds + 1, exponent, x => do
    if x.significand = 0 then return x
    divideByTen? rounds (exponent - greatestTen) (← x.div? (← powerOfTen? greatestTen))

/-- The number `± significand * 10^exponent` as a JSON text with these parts is read. It need not be the
nearest one: the significand is rounded, the power of ten is, and so is every product and quotient. There
is no number if a product exceeds every finite number. -/
def ofParts? (negative : Bool) (significand : Nat) (exponent : Int) : Option Binary64 := do
  let x ← ofQuotient? false significand 1
  let x ←
    if exponent < 0 then divideByTen? ((exponent.natAbs - 1) / greatestTen) exponent.natAbs x
    else if exponent ≤ greatestTen then do x.mul? (← powerOfTen? exponent.toNat)
    else if x.significand = 0 then some x
    else none
  return { x with negative := negative }

/-- The number nearest to an integer. An integer beyond the range of binary64, which no JSON integer
is, is answered by zero. -/
def ofInt (i : Int) : Binary64 :=
  (ofQuotient? (decide (i < 0)) i.natAbs 1).getD (zero (decide (i < 0)))

/-- The signed multiple of `2^power` that the number is, for a power not above its own. -/
def multipleOf (x : Binary64) (power : Int) : Int :=
  let magnitude : Int := (x.significand * Nat.pow 2 (x.exponent - power).toNat : Nat)
  if x.negative then -magnitude else magnitude

/-- Numeric comparison. The two zeros compare equal. -/
def compare (x y : Binary64) : Ordering :=
  let power := min x.exponent y.exponent
  Ord.compare (x.multipleOf power) (y.multipleOf power)

/-- Numeric equality, by which the two zeros are one number. -/
def sameNumber (x y : Binary64) : Bool := x.compare y == .eq

/-- How the number compares with zero. -/
def sign (x : Binary64) : Ordering := x.compare (zero false)

end Binary64

end Rulebook
