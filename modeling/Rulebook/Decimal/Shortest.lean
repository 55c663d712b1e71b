import Rulebook.Binary64

/-!
# The shortest decimal of a binary64 number

Every binary64 number owns the interval of reals that round to it. Its shortest decimal is the one
with the fewest digits in that interval, and of those the one nearest to the number.
-/

namespace Rulebook.Decimal

/-- A positive decimal `0.d₁d₂… * 10^point`, given by its digits and the place of its point. -/
structure Digits where
  /-- The digits, the first one not zero. -/
  digits : List Nat
  /-- The number of digits before the decimal point; negative when zeros follow the point. -/
  point : Int
  deriving DecidableEq, Repr

/-- A positive binary64 number and its interval of reals, on a common denominator. -/
structure Interval where
  low : Nat
  value : Nat
  high : Nat
  denominator : Nat
  /-- Whether the two ends round to the number. -/
  closed : Bool

/-- The interval of a positive number: half a unit of the last place to both sides, but a quarter
below a power of two, where the spacing changes. The ends belong to it iff the significand is even. -/
def Interval.of (x : Binary64) : Interval :=
  let narrow := x.significand = Nat.pow 2 52 ∧ Binary64.leastExponent < x.exponent
  let unit := if 0 ≤ x.exponent then Nat.pow 2 x.exponent.toNat else 1
  let denominator := if 0 ≤ x.exponent then 4 else 4 * Nat.pow 2 x.exponent.natAbs
  { low := (4 * x.significand - if narrow then 1 else 2) * unit
    value := 4 * x.significand * unit
    high := (4 * x.significand + 2) * unit
    denominator
    closed := x.significand % 2 = 0 }

/-- Whether the fraction `numerator / denominator` lies in the interval. -/
def Interval.contains (i : Interval) (numerator denominator : Nat) : Bool :=
  let n := numerator * i.denominator
  if i.closed then i.low * denominator ≤ n && n ≤ i.high * denominator
  else i.low * denominator < n && n < i.high * denominator

/-- The place of the decimal point of the fraction `numerator / denominator`, found from a guess by
steps up: the least `p` at or above the guess with `numerator / denominator < 10^p`. -/
def pointFrom (numerator denominator : Nat) : Nat → Int → Int
  | 0, guess => guess
  | steps + 1, guess =>
    let below := if 0 ≤ guess then numerator < denominator * Nat.pow 10 guess.toNat
      else numerator * Nat.pow 10 guess.natAbs < denominator
    if below then guess else pointFrom numerator denominator steps (guess + 1)

/-- The place of the decimal point of a positive fraction. -/
def pointOf (numerator denominator : Nat) : Int :=
  let twos : Int := (Nat.log2 numerator : Int) - (Nat.log2 denominator : Int)
  pointFrom numerator denominator 8 (twos * 30103 / 100000 - 1)

/-- The nearest decimal with `count` digits in the interval, if there is one: its digits as a number.
Only the two neighbours of the value on that grid can be the nearest, and of two equally near ones
the even one is taken. -/
def Interval.decimal? (i : Interval) (point : Int) (count : Nat) : Option Nat :=
  let power := point - count
  let (up, down) := if 0 ≤ power then (Nat.pow 10 power.toNat, 1) else (1, Nat.pow 10 power.natAbs)
  let numerator := i.value * down
  let denominator := i.denominator * up
  let floor := numerator / denominator
  let lower := i.contains (floor * up) down
  let upper := i.contains ((floor + 1) * up) down
  let twice := 2 * (numerator % denominator)
  if lower && upper then
    some (if twice < denominator then floor
      else if denominator < twice then floor + 1
      else if floor % 2 = 0 then floor else floor + 1)
  else if lower then some floor
  else if upper then some (floor + 1)
  else none

/-- The first digit count from `count` on with a decimal in the interval. Seventeen digits always
suffice. -/
def Interval.shortestFrom (i : Interval) (point : Int) : Nat → Nat → Nat × Nat
  | 0, count => (count, (i.decimal? point count).getD 0)
  | more + 1, count =>
    match i.decimal? point count with
    | some n => (count, n)
    | none => i.shortestFrom point more (count + 1)

/-- The digits of a natural number in base ten, most significant first. -/
def digitsOf (n : Nat) : List Nat :=
  (Nat.toDigits 10 n).map fun c => c.toNat - '0'.toNat

/-- The shortest decimal of a positive number, without trailing zeros. -/
def shortest (x : Binary64) : Digits :=
  let i := Interval.of x
  let point := pointOf i.value i.denominator
  let (count, n) := i.shortestFrom point 17 1
  let digits := digitsOf n
  { digits := (digits.reverse.dropWhile (· == 0)).reverse
    point := point + digits.length - count }

end Rulebook.Decimal
