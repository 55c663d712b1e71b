import Rulebook.Pattern
import Rulebook.Standard.Check

/-!
# Bounds of integers

Two integers are compared as signed or as unsigned ones where both are of one kind. Otherwise one of
them is negative and the other one above all signed integers, and they are compared in binary64, as
every number is with zero. That is exact too: rounding an integer keeps its sign, and zero.
-/

namespace Rulebook

open Json (Value Number)

/-! ## Rounding of integers -/

namespace Binary64

/-- Rounding does not go below the whole part of a quotient. -/
theorem div_le_roundedQuotient (n d : Nat) : n / d ≤ roundedQuotient n d := by
  unfold roundedQuotient
  extract_lets quotient twice
  repeat' split
  all_goals omega

/-- An integer is scaled by no greater power than that of its highest bit. -/
theorem binade_le_log2 (n : Nat) : binade n 1 ≤ (Nat.log2 n : Int) := by
  have hleast : leastExponent ≤ (Nat.log2 n : Int) :=
    Int.le_trans (by decide : leastExponent ≤ 0) (Int.natCast_nonneg _)
  unfold binade
  extract_lets guess
  split
  refine Int.max_le.mpr ⟨hleast, ?_⟩
  split <;> omega

/-- Scaled by such a power, an integer is not rounded to zero. -/
theorem roundedQuotient_scaled_pos {n : Nat} {power : Int} (hn : n ≠ 0)
    (hpower : power ≤ (Nat.log2 n : Int)) :
    0 < roundedQuotient (scaled n 1 power).1 (scaled n 1 power).2 := by
  have hquotient : 0 < (scaled n 1 power).1 / (scaled n 1 power).2 := by
    have htwo (k : Nat) : 0 < Nat.pow 2 k := Nat.pow_pos (Nat.succ_pos 1)
    unfold scaled
    split
    · rw [Nat.div_one]
      exact Nat.mul_pos (Nat.pos_of_ne_zero hn) (htwo _)
    · have hle : Nat.pow 2 power.natAbs ≤ n :=
        Nat.le_trans (Nat.pow_le_pow_right (Nat.succ_pos 1) (by omega)) (Nat.log2_self_le hn)
      rw [Nat.one_mul]
      exact Nat.div_pos hle (htwo _)
  exact Nat.lt_of_lt_of_le hquotient (div_le_roundedQuotient _ _)

/-- An integer of at most 64 bits that is not zero is rounded to a number with its sign, and not to
zero. -/
theorem exists_ofInt_eq {i : Int} (hi : i ≠ 0) (hbits : Nat.log2 i.natAbs < 64) :
    ∃ significand exponent, 0 < significand ∧
      ofInt i = ⟨decide (i < 0), significand, exponent⟩ := by
  have habs : i.natAbs ≠ 0 := Int.natAbs_ne_zero.mpr hi
  have hpower := binade_le_log2 i.natAbs
  have hpos := roundedQuotient_scaled_pos habs hpower
  -- so few bits do not overflow, not even after a carry
  have hsmall : ¬greatestExponent < binade i.natAbs 1 + 1 := by
    unfold greatestExponent
    omega
  have hsmall' : ¬greatestExponent < binade i.natAbs 1 := by omega
  -- rounded up to the next power of two, the significand is carried, and is no zero either
  by_cases hfull : roundedQuotient (scaled i.natAbs 1 (binade i.natAbs 1)).1
      (scaled i.natAbs 1 (binade i.natAbs 1)).2 = Nat.pow 2 precision
  · refine ⟨Nat.pow 2 52, binade i.natAbs 1 + 1, by decide, ?_⟩
    simp only [ofInt, ofQuotient?, if_neg habs, if_pos hfull, if_neg hsmall, Option.getD_some]
  · refine ⟨_, binade i.natAbs 1, hpos, ?_⟩
    simp only [ofInt, ofQuotient?, if_neg habs, if_neg hfull, if_neg hsmall', Option.getD_some]

/-- A number that is not zero is on the side of zero that its sign tells. -/
theorem multipleOf_sign {x : Binary64} (hx : 0 < x.significand) (power : Int) :
    (x.multipleOf power < 0 ↔ x.negative = true) ∧
      (0 < x.multipleOf power ↔ x.negative = false) := by
  have hpos : 0 < x.significand * Nat.pow 2 (x.exponent - power).toNat :=
    Nat.mul_pos hx (Nat.pow_pos (Nat.succ_pos 1))
  unfold multipleOf
  extract_lets magnitude
  have hmagnitude : 0 < magnitude := Int.natCast_pos.mpr hpos
  cases x.negative <;> simp <;> omega

/-- Rounding leaves an integer of at most 64 bits on its side of zero. -/
theorem multipleOf_ofInt_sign {i : Int} (hbits : Nat.log2 i.natAbs < 64) (power : Int) :
    ((ofInt i).multipleOf power < 0 ↔ i < 0) ∧ (0 < (ofInt i).multipleOf power ↔ 0 < i) := by
  by_cases hi : i = 0
  · subst hi
    simp [ofInt, ofQuotient?, zero, multipleOf]
  · obtain ⟨significand, exponent, hpos, heq⟩ := exists_ofInt_eq hi hbits
    obtain ⟨hneg, hpos⟩ := multipleOf_sign (x := ofInt i) (by rwa [heq]) power
    rw [hneg, hpos, heq]
    simp
    omega

/-- A rounded integer compares with zero as the integer does. -/
theorem sign_ofInt {i : Int} (hbits : Nat.log2 i.natAbs < 64) :
    (ofInt i).sign = Ord.compare i 0 := by
  have hzero (power : Int) : (zero false).multipleOf power = 0 := by simp [multipleOf, zero]
  obtain ⟨hneg, hpos⟩ := multipleOf_ofInt_sign hbits (min (ofInt i).exponent (zero false).exponent)
  simp only [sign, Binary64.compare, hzero, Int.compare_eq_ite_lt, hneg, hpos]

/-- A negative integer stays below a positive one. -/
theorem compare_ofInt {i j : Int} (hi : i < 0) (hj : 0 < j) (hibits : Nat.log2 i.natAbs < 64)
    (hjbits : Nat.log2 j.natAbs < 64) :
    (ofInt i).compare (ofInt j) = .lt ∧ (ofInt j).compare (ofInt i) = .gt := by
  have hbelow (power : Int) : (ofInt i).multipleOf power < (ofInt j).multipleOf power :=
    Int.lt_trans ((multipleOf_ofInt_sign hibits power).1.mpr hi)
      ((multipleOf_ofInt_sign hjbits power).2.mpr hj)
  exact ⟨Int.compare_eq_lt.mpr (hbelow _), Int.compare_eq_gt.mpr (hbelow _)⟩

end Binary64

/-! ## Comparison of integers -/

namespace Json.Number

/-- The integers that are read as integers. -/
def IsRead (i : Int) : Prop := least ≤ i ∧ i < ceiling

instance (i : Int) : Decidable (IsRead i) := inferInstanceAs (Decidable (_ ∧ _))

variable {i j : Int}

/-- An integer that is read has at most 64 bits. -/
theorem IsRead.log2_lt (h : IsRead i) : Nat.log2 i.natAbs < 64 := by
  obtain ⟨hleast, hceiling⟩ := h
  unfold least at hleast
  unfold ceiling at hceiling
  by_cases hi : i.natAbs = 0
  · rw [hi]
    decide
  · exact (Nat.log2_lt hi).mpr (by omega)

/-- An integer that is read is a signed one, or too great for that. -/
theorem signed64?_int (h : IsRead i) :
    (int i).signed64? = if i < 0x8000000000000000 then some i else none := by
  simp [signed64?, h.1]

/-- An integer that is read is an unsigned one, or negative. -/
theorem unsigned64?_int (h : IsRead i) :
    (int i).unsigned64? = if 0 ≤ i then some i.toNat else none := by
  simp [unsigned64?, h.2]

/-- Natural numbers compare as integers do. -/
theorem compare_toNat (hi : 0 ≤ i) (hj : 0 ≤ j) :
    Ord.compare i.toNat j.toNat = Ord.compare i j := by
  obtain ⟨m, rfl⟩ := Int.eq_ofNat_of_zero_le hi
  obtain ⟨n, rfl⟩ := Int.eq_ofNat_of_zero_le hj
  simp only [Int.toNat_natCast, Nat.compare_eq_ite_lt, Int.compare_eq_ite_lt, Int.ofNat_lt]

/-- Integers that are read compare as integers. -/
theorem compare_int (hi : IsRead i) (hj : IsRead j) :
    (int i).compare (int j) = Ord.compare i j := by
  have hkinds : i < 0x8000000000000000 ∧ j < 0x8000000000000000 ∨
      (0 ≤ i ∧ 0 ≤ j) ∧ (0x8000000000000000 ≤ i ∨ 0x8000000000000000 ≤ j) ∨
      i < 0 ∧ 0x8000000000000000 ≤ j ∨ j < 0 ∧ 0x8000000000000000 ≤ i := by omega
  unfold compare
  rw [signed64?_int hi, signed64?_int hj, unsigned64?_int hi, unsigned64?_int hj]
  rcases hkinds with ⟨hi', hj'⟩ | ⟨⟨hi', hj'⟩, hgreat⟩ | ⟨hneg, hgreat⟩ | ⟨hneg, hgreat⟩
  · rw [if_pos hi', if_pos hj']
  · rw [if_pos hi', if_pos hj', ← compare_toNat hi' hj']
    rcases hgreat with hgreat | hgreat <;> rw [if_neg (Int.not_lt.mpr hgreat)]
    split
    · next h => cases h
    · rfl
  -- one of them is negative, and the other one is no signed integer: binary64 keeps both signs
  · have hpos : 0 < j := by omega
    have hrounded := Binary64.compare_ofInt hneg hpos hi.log2_lt hj.log2_lt
    rw [if_pos (by omega), if_neg (Int.not_lt.mpr hgreat), if_neg (Int.not_le.mpr hneg)]
    exact hrounded.1.trans (Int.compare_eq_lt.mpr (by omega)).symm
  · have hpos : 0 < i := by omega
    have hrounded := Binary64.compare_ofInt hneg hpos hj.log2_lt hi.log2_lt
    rw [if_neg (Int.not_lt.mpr hgreat), if_pos (Int.le_of_lt hpos), if_neg (Int.not_le.mpr hneg)]
    exact hrounded.2.trans (Int.compare_eq_gt.mpr (by omega)).symm

/-- An integer that is read compares with zero as an integer. -/
theorem sign_int (hi : IsRead i) : (int i).sign = Ord.compare i 0 :=
  Binary64.sign_ofInt hi.log2_lt

end Json.Number

/-! ## Rules -/

namespace Standard

open Json.Number (IsRead)

variable {n a b : Int}

/-- A lower bound is met by the integers not below it. -/
theorem isAtLeast_int (hn : IsRead n) (ha : IsRead a) :
    isAtLeast (.int a) (.number (.int n)) = decide (a ≤ n) := by
  rw [Bool.eq_iff_iff, isAtLeast, Number.compare_int hn ha, Int.isGE_compare, decide_eq_true_iff]

/-- An upper bound is met by the integers not above it. -/
theorem isAtMost_int (hn : IsRead n) (hb : IsRead b) :
    isAtMost (.int b) (.number (.int n)) = decide (n ≤ b) := by
  rw [Bool.eq_iff_iff, isAtMost, Number.compare_int hn hb, Int.isLE_compare, decide_eq_true_iff]

/-- A range is inverted if its lower bound is above the upper one, and else both bounds are looked
at. -/
theorem inRange_int (ha : IsRead a) (hb : IsRead b) (v : Value) :
    inRange v [.number (.int a), .number (.int b)] =
      if b < a then .error (.badArgument "range" (ArgumentFault.invertedRange (.int a) (.int b)).message)
      else .ok (isAtLeast (.int a) v && isAtMost (.int b) v) := by
  have hinverted : (Number.int a).compare (.int b) = .gt ↔ b < a := by
    rw [Number.compare_int ha hb, Int.compare_eq_gt]
  by_cases h : b < a
  · rw [if_pos h]
    exact if_pos (hinverted.mpr h)
  · rw [if_neg h]
    exact if_neg fun hgt => h (hinverted.mp hgt)

/-- The positive integers are those above zero. -/
theorem isPositive_int (hn : IsRead n) : isPositive (.number (.int n)) = decide (0 < n) := by
  rw [Bool.eq_iff_iff, isPositive, sign?, Number.sign_int hn]
  simp [Int.compare_eq_gt]

/-- The integers that are not negative are those not below zero. -/
theorem isNonNegative_int (hn : IsRead n) :
    isNonNegative (.number (.int n)) = decide (0 ≤ n) := by
  rw [Bool.eq_iff_iff, isNonNegative, sign?, Number.sign_int hn]
  simp [Int.isGE_compare]

/-- The negative integers are those below zero. -/
theorem isNegative_int (hn : IsRead n) : isNegative (.number (.int n)) = decide (n < 0) := by
  rw [Bool.eq_iff_iff, isNegative, sign?, Number.sign_int hn]
  simp [Int.compare_eq_lt]

end Standard

namespace StandardRule

open Standard
open Json.Number (IsRead)

/-- Rules for bounds and signs are exact for integers, over the whole range of those that are read.
A range is an error if its lower bound is above the upper one, whatever the subject. The rule for
numbers that are not negative answers as the lower bound zero does, and the one for negative numbers
the other way round. -/
theorem integer_bounds_exact [PatternEngine] {n a b : Int} (hn : IsRead n) (ha : IsRead a)
    (hb : IsRead b) :
    min.check (.number (.int n)) [.number (.int a)] = .ok (.of (decide (a ≤ n))) ∧
    max.check (.number (.int n)) [.number (.int b)] = .ok (.of (decide (n ≤ b))) ∧
    (∀ v, (∃ e, range.check v [.number (.int a), .number (.int b)] = .error e) ↔ b < a) ∧
    (¬b < a → range.check (.number (.int n)) [.number (.int a), .number (.int b)] =
      .ok (.of (decide (a ≤ n ∧ n ≤ b)))) ∧
    positive.check (.number (.int n)) [] = .ok (.of (decide (0 < n))) ∧
    nonNegative.check (.number (.int n)) [] = .ok (.of (decide (0 ≤ n))) ∧
    negative.check (.number (.int n)) [] = .ok (.of (decide (n < 0))) ∧
    ∃ passed, min.check (.number (.int n)) [.number (.int 0)] = .ok (.of passed) ∧
      nonNegative.check (.number (.int n)) [] = .ok (.of passed) ∧
      negative.check (.number (.int n)) [] = .ok (.of !passed) := by
  have hmin {bound : Int} (hbound : IsRead bound) :
      min.check (.number (.int n)) [.number (.int bound)] = .ok (.of (decide (bound ≤ n))) := by
    rw [← isAtLeast_int hn hbound]
    rfl
  have hmax : max.check (.number (.int n)) [.number (.int b)] = .ok (.of (decide (n ≤ b))) := by
    rw [← isAtMost_int hn hb]
    rfl
  have hrange (v : Value) : range.check v [.number (.int a), .number (.int b)] =
      if b < a then .error (.badArgument "range" (ArgumentFault.invertedRange (.int a) (.int b)).message)
      else .ok (.of (isAtLeast (.int a) v && isAtMost (.int b) v)) := by
    rw [check, inRange_int ha hb]
    split <;> rfl
  have hpositive : positive.check (.number (.int n)) [] = .ok (.of (decide (0 < n))) := by
    rw [check, plain, isPositive_int hn]
  have hnonNegative : nonNegative.check (.number (.int n)) [] = .ok (.of (decide (0 ≤ n))) := by
    rw [check, plain, isNonNegative_int hn]
  have hnegative : negative.check (.number (.int n)) [] = .ok (.of (decide (n < 0))) := by
    rw [check, plain, isNegative_int hn]
  refine ⟨hmin ha, hmax, fun v => ?_, fun h => ?_, hpositive, hnonNegative, hnegative,
    decide (0 ≤ n), hmin (by decide), hnonNegative, ?_⟩
  · rw [hrange]
    split <;> simp [*]
  · rw [hrange, if_neg h, isAtLeast_int hn ha, isAtMost_int hn hb, Bool.decide_and]
  · have hcomplement : decide (n < 0) = !decide (0 ≤ n) := by
      simp only [← decide_not, Int.not_le]
    rw [hnegative, hcomplement]

/-- Minus one lies between the least and the greatest integer that is read. With the greatest one it
is compared in binary64. -/
theorem minusOne_bounds :
    let subject := Value.number (.int (-1))
    let least := Value.number (.int (-0x8000000000000000))
    let greatest := Value.number (.int 0xFFFFFFFFFFFFFFFF)
    IsRead (-1) ∧ IsRead (-0x8000000000000000) ∧ IsRead 0xFFFFFFFFFFFFFFFF ∧
    min.check subject [least] = .ok .pass ∧ max.check subject [greatest] = .ok .pass ∧
    range.check subject [least, greatest] = .ok .pass ∧ negative.check subject [] = .ok .pass := by
  have hminusOne : IsRead (-1) := by decide
  have hleast : IsRead (-0x8000000000000000) := by decide
  have hgreatest : IsRead 0xFFFFFFFFFFFFFFFF := by decide
  obtain ⟨hmin, hmax, -, hrange, -, -, hnegative, -⟩ :=
    integer_bounds_exact hminusOne hleast hgreatest
  exact ⟨hminusOne, hleast, hgreatest, hmin, hmax, hrange (by decide), hnegative⟩

end StandardRule

end Rulebook
