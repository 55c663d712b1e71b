import Mathlib.Algebra.Order.Field.Power
import Mathlib.Data.List.DropRight
import Mathlib.Data.Rat.Cast.Order
import Mathlib.Tactic.Linarith
import Mathlib.Tactic.NormNum.Pow
import Mathlib.Tactic.Positivity
import Mathlib.Tactic.Ring
import Rulebook.Decimal.Shortest

/-!
# Digits of the shortest decimal

Every finite binary64 number other than zero has a shortest decimal: with eighteen digits the grid of
decimals is finer than the interval of the number, so the search for the fewest digits comes to an end
before it gives up. Its digits are digits of base ten, and the first one is not zero.
-/

namespace Rulebook

/-- A number whose parts keep within the bounds of binary64. -/
structure Binary64.IsFinite (x : Binary64) : Prop where
  significand_lt : x.significand < 2 ^ precision
  least_le : leastExponent ≤ x.exponent
  le_greatest : x.exponent ≤ greatestExponent

namespace Decimal

variable {x : Binary64} {i : Interval} {n d count : Nat} {point : Int}

/-! ## The place of the point -/

/-- The guess is not too great for powers of two above one. -/
theorem ten_pow_le_two_pow {t : Nat} (ht : t < 1200) :
    2 * 10 ^ (t * 30103 / 100000) ≤ 100 * 2 ^ t := by
  have hall : (List.range 1200).all (fun t => 2 * 10 ^ (t * 30103 / 100000) ≤ 100 * 2 ^ t) = true := by
    decide +kernel
  simpa using List.all_eq_true.mp hall t (List.mem_range.mpr ht)

/-- The guess is not too great for powers of two below one. -/
theorem two_pow_le_ten_pow {t : Nat} (ht : t < 1200) :
    2 * 2 ^ t ≤ 100 * 10 ^ ((t * 30103 + 99999) / 100000) := by
  have hall : (List.range 1200).all
      (fun t => 2 * 2 ^ t ≤ 100 * 10 ^ ((t * 30103 + 99999) / 100000)) = true := by
    decide +kernel
  simpa using List.all_eq_true.mp hall t (List.mem_range.mpr ht)

/-- The power of ten that is guessed for a power of two is at most fifty times as great. -/
theorem guess_le_two_pow {twos : Int} (hlow : -1200 < twos) (hhigh : twos < 1200) :
    (10 : ℚ) ^ (twos * 30103 / 100000) ≤ 50 * 2 ^ twos := by
  rcases Int.eq_nat_or_neg twos with ⟨t, rfl | rfl⟩
  · have hle := ten_pow_le_two_pow (t := t) (by omega)
    have hguess : (t : ℤ) * 30103 / 100000 = (t * 30103 / 100000 : ℕ) := by push_cast; rfl
    rw [hguess, zpow_natCast, zpow_natCast]
    have hcast : (2 : ℚ) * 10 ^ (t * 30103 / 100000) ≤ 100 * 2 ^ t := by exact_mod_cast hle
    linarith
  · have hle := two_pow_le_ten_pow (t := t) (by omega)
    have hguess : -(t : ℤ) * 30103 / 100000 = -((t * 30103 + 99999) / 100000 : ℕ) := by omega
    have hcast : (2 : ℚ) * 2 ^ t ≤ 100 * 10 ^ ((t * 30103 + 99999) / 100000) := by exact_mod_cast hle
    rw [hguess, zpow_neg, zpow_neg, zpow_natCast, zpow_natCast, ← div_eq_mul_inv,
      inv_le_comm₀ (by positivity) (by positivity), inv_div, div_le_iff₀ (by norm_num)]
    linarith

/-- A quotient is at least half the quotient of the powers of two below its parts. -/
theorem two_pow_le_quotient (hn : n ≠ 0) (hd : d ≠ 0) :
    (2 : ℚ) ^ ((Nat.log2 n : Int) - Nat.log2 d) ≤ 2 * (n / d) := by
  have hnum : (2 : ℚ) ^ Nat.log2 n ≤ n := by exact_mod_cast Nat.log2_self_le hn
  have hden : (d : ℚ) ≤ 2 ^ (Nat.log2 d + 1) := by exact_mod_cast (Nat.lt_log2_self).le
  have hpos : (0 : ℚ) < d := by exact_mod_cast Nat.pos_of_ne_zero hd
  rw [zpow_sub₀ (by norm_num), zpow_natCast, zpow_natCast, ← mul_div_assoc, div_le_div_iff₀ (by positivity) hpos]
  calc (2 : ℚ) ^ Nat.log2 n * d ≤ n * 2 ^ (Nat.log2 d + 1) := by gcongr
    _ = 2 * n * 2 ^ Nat.log2 d := by ring

/-- A guess is taken if the power of ten is above the quotient. -/
theorem pointFrom_succ (hd : d ≠ 0) (steps : Nat) (guess : Int) :
    pointFrom n d (steps + 1) guess =
      if (n : ℚ) / d < 10 ^ guess then guess else pointFrom n d steps (guess + 1) := by
  have hpos : (0 : ℚ) < d := by exact_mod_cast Nat.pos_of_ne_zero hd
  rw [pointFrom]
  refine if_congr ?_ rfl rfl
  rw [div_lt_iff₀' hpos]
  split
  · next hsign =>
    obtain ⟨g, rfl⟩ := Int.eq_ofNat_of_zero_le hsign
    rw [Int.toNat_natCast, zpow_natCast]
    exact_mod_cast Iff.rfl
  · next hsign =>
    obtain ⟨g, rfl⟩ := Int.exists_eq_neg_ofNat (Int.le_of_lt (Int.not_le.mp hsign))
    rw [Int.natAbs_neg, Int.natAbs_natCast, zpow_neg, zpow_natCast, ← div_eq_mul_inv,
      lt_div_iff₀ (by positivity)]
    exact_mod_cast Iff.rfl

/-- Steps up from a power of ten below a quotient end at most at ten times the quotient. -/
theorem pow_pointFrom_le (hd : d ≠ 0) (steps : Nat) {guess : Int}
    (hguess : (10 : ℚ) ^ (guess - 1) ≤ n / d) :
    (10 : ℚ) ^ (pointFrom n d steps guess - 1) ≤ n / d := by
  induction steps generalizing guess with
  | zero => exact hguess
  | succ steps ih =>
    rw [pointFrom_succ hd]
    split
    · exact hguess
    · next hstep =>
      refine ih ?_
      rw [add_sub_cancel_right]
      exact not_lt.mp hstep

/-- The power of ten in front of the point is not above the quotient. -/
theorem pow_pointOf_le (hn : n ≠ 0) (hd : d ≠ 0) (hnbits : Nat.log2 n < 1200)
    (hdbits : Nat.log2 d < 1200) : (10 : ℚ) ^ (pointOf n d - 1) ≤ n / d := by
  refine pow_pointFrom_le hd 8 ?_
  have hguess : (10 : ℚ) ^ (((Nat.log2 n : Int) - Nat.log2 d) * 30103 / 100000) ≤
      50 * 2 ^ ((Nat.log2 n : Int) - Nat.log2 d) := guess_le_two_pow (by omega) (by omega)
  have hquotient := two_pow_le_quotient hn hd
  rw [sub_sub, zpow_sub₀ (by norm_num), div_le_iff₀ (by norm_num)]
  norm_num
  linarith

/-! ## The grid of decimals -/

/-- The step of a grid of decimals is a power of ten, written as a quotient. -/
theorem exists_step (power : Int) : ∃ up down : Nat,
    (if 0 ≤ power then (Nat.pow 10 power.toNat, 1) else (1, Nat.pow 10 power.natAbs)) = (up, down) ∧
      0 < up ∧ 0 < down ∧ (10 : ℚ) ^ power = up / down := by
  split
  · next hsign =>
    obtain ⟨p, rfl⟩ := Int.eq_ofNat_of_zero_le hsign
    exact ⟨10 ^ p, 1, rfl, by positivity, Nat.one_pos, by simp⟩
  · next hsign =>
    obtain ⟨p, rfl⟩ := Int.exists_eq_neg_ofNat (Int.le_of_lt (Int.not_le.mp hsign))
    exact ⟨1, 10 ^ p, by simp, Nat.one_pos, by positivity, by simp⟩

namespace Interval

/-- The number lies well inside its interval: it is no more than `2^55` times as far from zero as from the
lower end, and below the upper end. -/
structure Surrounds (i : Interval) : Prop where
  denominator_pos : 0 < i.denominator
  low_pos : 0 < i.low
  gap : 2 ^ 55 * i.low + i.value ≤ 2 ^ 55 * i.value
  value_lt : i.value < i.high

/-- The parts of an interval with the powers of two written out. -/
theorem of_eq (x : Binary64) : ∃ gap, (gap = 1 ∨ gap = 2) ∧ Interval.of x =
    { low := (4 * x.significand - gap) * 2 ^ x.exponent.toNat
      value := 4 * x.significand * 2 ^ x.exponent.toNat
      high := (4 * x.significand + 2) * 2 ^ x.exponent.toNat
      denominator := 4 * 2 ^ (-x.exponent).toNat
      closed := x.significand % 2 = 0 } := by
  have hunit : (if 0 ≤ x.exponent then Nat.pow 2 x.exponent.toNat else 1) = 2 ^ x.exponent.toNat := by
    split
    · rfl
    · rw [Int.toNat_of_nonpos (by omega), pow_zero]
  have hdenominator : (if 0 ≤ x.exponent then 4 else 4 * Nat.pow 2 x.exponent.natAbs) =
      4 * 2 ^ (-x.exponent).toNat := by
    split
    · rw [Int.toNat_of_nonpos (by omega), pow_zero, mul_one]
    · have habs : x.exponent.natAbs = (-x.exponent).toNat := by omega
      rw [habs]
      rfl
  refine ⟨if x.significand = Nat.pow 2 52 ∧ Binary64.leastExponent < x.exponent then 1 else 2, ?_, ?_⟩
  · split
    · exact .inl rfl
    · exact .inr rfl
  · rw [Interval.of, hunit, hdenominator]

/-- The interval of a finite number other than zero surrounds it. -/
theorem surrounds_of (hx : x.IsFinite) (hne : x.significand ≠ 0) : (Interval.of x).Surrounds := by
  have hlt : x.significand < 2 ^ 53 := hx.significand_lt
  obtain ⟨gap, hgap, hof⟩ := of_eq x
  have hunit : 0 < 2 ^ x.exponent.toNat := Nat.two_pow_pos _
  rw [hof]
  refine ⟨Nat.mul_pos (by decide) (Nat.two_pow_pos _), Nat.mul_pos (by omega) hunit, ?_,
    Nat.mul_lt_mul_of_pos_right (by omega) hunit⟩
  dsimp only
  rw [← Nat.mul_assoc, ← Nat.mul_assoc, ← Nat.add_mul]
  exact Nat.mul_le_mul_right _ (by omega)

/-- A number that is surrounded is positive. -/
theorem Surrounds.value_pos (hi : i.Surrounds) : 0 < i.value := by
  have hlow := hi.low_pos
  have hgap := hi.gap
  omega

/-- A finite number is neither too great nor too small for the place of its point to be guessed. -/
theorem log2_lt_of (hx : x.IsFinite) (hne : x.significand ≠ 0) :
    Nat.log2 (Interval.of x).value < 1200 ∧ Nat.log2 (Interval.of x).denominator < 1200 := by
  have hleast : -1074 ≤ x.exponent := hx.least_le
  have hgreatest : x.exponent ≤ 971 := hx.le_greatest
  obtain ⟨gap, -, hof⟩ := of_eq x
  rw [hof]
  constructor
  · have hvalue : 4 * x.significand * 2 ^ x.exponent.toNat < 2 ^ (55 + x.exponent.toNat) := by
      have hlt : x.significand < 2 ^ 53 := hx.significand_lt
      rw [Nat.pow_add]
      exact Nat.mul_lt_mul_of_pos_right (by omega) (Nat.two_pow_pos _)
    have hlog := (Nat.log2_lt (Nat.mul_ne_zero (by omega) (Nat.two_pow_pos _).ne')).mpr hvalue
    dsimp only
    omega
  · have hdenominator : 4 * 2 ^ (-x.exponent).toNat = 2 ^ (2 + (-x.exponent).toNat) := by
      rw [Nat.pow_add]
    dsimp only
    rw [hdenominator, Nat.log2_two_pow]
    omega

/-- A fraction in an interval of positive numbers is positive. -/
theorem pos_of_contains (hi : i.Surrounds) (hd : 0 < d) (h : i.contains n d = true) : 0 < n := by
  have hlow : 0 < i.low * d := Nat.mul_pos hi.low_pos hd
  rw [Nat.pos_iff_ne_zero]
  rintro rfl
  rw [contains] at h
  split at h <;> simp only [Nat.zero_mul, Bool.and_eq_true, decide_eq_true_iff] at h <;> omega

/-- The point of a grid just below the number is in its interval, if a step of the grid is not greater
than the gap between the number and the lower end. -/
theorem contains_floor {up down : Nat} (hi : i.Surrounds) (hup : 0 < up) (hdown : 0 < down)
    (hstep : i.low * down + i.denominator * up ≤ i.value * down) :
    i.contains (i.value * down / (i.denominator * up) * up) down = true := by
  have hbelow := Nat.div_mul_le_self (i.value * down) (i.denominator * up)
  have habove := Nat.lt_div_mul_add (a := i.value * down) (Nat.mul_pos hi.denominator_pos hup)
  have hhigh : i.value * down < i.high * down := Nat.mul_lt_mul_of_pos_right hi.value_lt hdown
  rw [contains, Nat.mul_assoc, Nat.mul_comm up]
  split <;> simp only [Bool.and_eq_true, decide_eq_true_iff] <;> omega

/-- What is found on a grid is the point below the number, which is then in the interval, or the next one.
Something is found if the point below the number is in the interval. -/
theorem decimal?_spec (i : Interval) (point : Int) (count : Nat) : ∃ up down floor : Nat,
    (0 < up ∧ 0 < down ∧ (10 : ℚ) ^ (point - count) = up / down) ∧
    floor = i.value * down / (i.denominator * up) ∧
    (i.contains (floor * up) down = true → ∃ n, i.decimal? point count = some n) ∧
    ∀ n, i.decimal? point count = some n →
      (n = floor ∧ i.contains (floor * up) down = true) ∨ n = floor + 1 := by
  obtain ⟨up, down, hgrid, hup, hdown, hstep⟩ := exists_step (point - count)
  refine ⟨up, down, _, ⟨hup, hdown, hstep⟩, rfl, fun hlower => ?_, fun n h => ?_⟩
  · simp only [decimal?, hgrid, hlower, Bool.true_and, if_true]
    split <;> exact ⟨_, rfl⟩
  · simp only [decimal?, hgrid] at h
    split at h
    · next hboth =>
      obtain ⟨hlower, -⟩ := (Bool.and_eq_true _ _).mp hboth
      rw [← Option.some.inj h]
      split
      · exact .inl ⟨rfl, hlower⟩
      · split
        · exact .inr rfl
        · split
          · exact .inl ⟨rfl, hlower⟩
          · exact .inr rfl
    · next hboth =>
      split at h
      · next hlower => exact .inl ⟨(Option.some.inj h).symm, hlower⟩
      · split at h
        · exact .inr (Option.some.inj h).symm
        · cases h

/-- What is found on a grid is positive. -/
theorem pos_of_decimal? (hi : i.Surrounds) (h : i.decimal? point count = some n) : 0 < n := by
  obtain ⟨up, down, floor, ⟨-, hdown, -⟩, -, -, hfound⟩ := i.decimal?_spec point count
  rcases hfound n h with ⟨rfl, hlower⟩ | rfl
  · exact Nat.pos_of_mul_pos_right (pos_of_contains hi hdown hlower)
  · exact Nat.succ_pos floor

/-- The grid of eighteen digits is fine enough. -/
theorem exists_decimal?_eighteen (hi : i.Surrounds)
    (hpoint : (10 : ℚ) ^ (point - 1) ≤ i.value / i.denominator) :
    ∃ n, i.decimal? point 18 = some n := by
  obtain ⟨up, down, floor, ⟨hup, hdown, hstep⟩, rfl, hfound, -⟩ := i.decimal?_spec point 18
  have hnumber : 10 ^ 17 * (i.denominator * up) ≤ i.value * down := by
    have hpower : (10 : ℚ) ^ (point - 1) = 10 ^ 17 * (up / down) := by
      rw [← hstep, ← zpow_natCast, ← zpow_add₀ (by norm_num)]
      congr 1
      push_cast
      ring
    have hdenominator : (0 : ℚ) < i.denominator := by exact_mod_cast hi.denominator_pos
    have hdownCast : (0 : ℚ) < down := by exact_mod_cast hdown
    rw [hpower, ← mul_div_assoc, div_le_div_iff₀ hdownCast hdenominator] at hpoint
    have hcast : (10 : ℚ) ^ 17 * (i.denominator * up) ≤ i.value * down := by linarith
    exact_mod_cast hcast
  have hgap : i.low * down + i.denominator * up ≤ i.value * down := by
    have h := Nat.mul_le_mul_right down hi.gap
    rw [Nat.add_mul, Nat.mul_assoc, Nat.mul_assoc] at h
    omega
  exact hfound (contains_floor hi hup hdown hgap)

/-- The search ends with what is found on some grid, if something is found on one of them. -/
theorem shortestFrom_spec (more count : Nat) {n : Nat} (h : i.decimal? point (count + more) = some n) :
    i.decimal? point (i.shortestFrom point more count).1 = some (i.shortestFrom point more count).2 := by
  induction more generalizing count with
  | zero =>
    rw [Nat.add_zero] at h
    rw [shortestFrom, h]
    rfl
  | succ more ih =>
    rw [shortestFrom]
    split
    · next hfound => exact hfound
    · exact ih (count + 1) (by rwa [Nat.add_assoc, Nat.add_comm 1])

end Interval

/-! ## Digits -/

/-- Digits of base ten, the first one not zero. -/
structure AreLeading (digits : List Nat) : Prop where
  lt_ten : ∀ d ∈ digits, d < 10
  exists_cons : ∃ first rest, digits = first :: rest ∧ first ≠ 0

/-- There is a first digit. -/
theorem AreLeading.ne_nil {digits : List Nat} (h : AreLeading digits) : digits ≠ [] := by
  obtain ⟨first, rest, rfl, -⟩ := h.exists_cons
  exact List.cons_ne_nil first rest

/-- The digits of a number are those of its tenth and the last one. -/
theorem digitsOf_eq (n : Nat) :
    digitsOf n = if n < 10 then [n] else digitsOf (n / 10) ++ [n % 10] := by
  have hdigit : ∀ d < 10, (Nat.digitChar d).toNat - '0'.toNat = d := by decide
  rw [digitsOf, Nat.toDigits_eq_if (by decide)]
  split
  · next hlt => rw [List.map_singleton, hdigit n hlt]
  · rw [List.map_append, List.map_singleton, hdigit _ (Nat.mod_lt n (by decide)), digitsOf]

/-- The digits of a positive number do not begin with zero. -/
theorem areLeading_digitsOf {n : Nat} (hn : 0 < n) : AreLeading (digitsOf n) := by
  induction n using Nat.strong_induction_on with
  | _ n ih =>
    rw [digitsOf_eq]
    split
    · next hlt => exact ⟨by simpa using hlt, n, [], rfl, hn.ne'⟩
    · next hge =>
      obtain ⟨hall, first, rest, hfirst, hne⟩ := ih (n / 10) (by omega) (by omega)
      refine ⟨?_, first, rest ++ [n % 10], by rw [hfirst, List.cons_append], hne⟩
      intro d hd
      rcases List.mem_append.mp hd with hd | hd
      · exact hall d hd
      · rw [List.mem_singleton.mp hd]
        exact Nat.mod_lt n (by decide)

/-- Digits that do not begin with zero keep the first one when zeros are taken off their end. -/
theorem AreLeading.trimmed {digits : List Nat} (h : AreLeading digits) :
    AreLeading (digits.reverse.dropWhile (· == 0)).reverse := by
  obtain ⟨hall, first, rest, rfl, hne⟩ := h
  have hfront : (first :: rest).rdropWhile (· == 0) <+: first :: rest := List.rdropWhile_prefix _ _
  change AreLeading ((first :: rest).rdropWhile (· == 0))
  refine ⟨fun d hd => hall d (hfront.subset hd), ?_⟩
  cases htrimmed : (first :: rest).rdropWhile (· == 0) with
  | nil =>
    have hzero := List.rdropWhile_eq_nil_iff.mp htrimmed first List.mem_cons_self
    exact absurd (eq_of_beq hzero) hne
  | cons d digits =>
    rw [htrimmed, List.cons_prefix_cons] at hfront
    exact ⟨d, digits, rfl, hfront.1 ▸ hne⟩

/-- The digits of the shortest decimal of a finite number other than zero. -/
theorem areLeading_shortest (hx : x.IsFinite) (hne : x.significand ≠ 0) :
    AreLeading (shortest x).digits := by
  have hi := Interval.surrounds_of hx hne
  have hvalue : (Interval.of x).value ≠ 0 := Nat.ne_of_gt hi.value_pos
  have hdenominator : (Interval.of x).denominator ≠ 0 := Nat.ne_of_gt hi.denominator_pos
  obtain ⟨hvalueBits, hdenominatorBits⟩ := Interval.log2_lt_of hx hne
  have hpoint := pow_pointOf_le hvalue hdenominator hvalueBits hdenominatorBits
  obtain ⟨n, hn⟩ := Interval.exists_decimal?_eighteen hi hpoint
  have hfound := Interval.shortestFrom_spec 17 1 hn
  exact (areLeading_digitsOf (Interval.pos_of_decimal? hi hfound)).trimmed

end Decimal

end Rulebook
