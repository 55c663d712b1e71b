import Mathlib.Computability.Language
import Mathlib.Data.List.TakeWhile
import Rulebook.Proofs.Standard.Guards

/-!
# Texts of numbers

The tests for the texts of integers, of decimal fractions and of numbers recognise three regular
languages, each written as a pattern of its own. A number is an integer or a fraction, never both:
the first is an identity of regular languages, the second is told by the point.
-/

namespace Rulebook

open Json (Value Number)
open Unicode (isDecimalDigit)
open scoped Computability

namespace Standard

/-! ## The languages -/

/-- The texts of one decimal digit, `\d`. -/
def digitText : Language Char := { s | ∃ c, isDecimalDigit c = true ∧ s = [c] }

/-- One decimal digit or more, `\d+`. -/
def digitTexts : Language Char := digitText * digitText∗

/-- A minus sign or none, `-?`. -/
def optionalMinus : Language Char := 1 + {['-']}

/-- A point and digits, `\.\d+`. -/
def pointTexts : Language Char := {['.']} * digitTexts

/-- The texts of integers, `-?\d+`. -/
def integerTexts : Language Char := optionalMinus * digitTexts

/-- The texts of decimal fractions, `-?\d*\.\d+`. -/
def fractionTexts : Language Char := optionalMinus * (digitText∗ * pointTexts)

/-- The texts of numbers, `-?(\d+(\.\d+)?|\.\d+)`. -/
def numberTexts : Language Char :=
  optionalMinus * (digitTexts * (1 + pointTexts) + pointTexts)

/-- Digits and a fraction or none, or a fraction alone, are digits alone or a fraction behind
digits. -/
theorem unsignedTexts_eq :
    digitTexts * (1 + pointTexts) + pointTexts = digitTexts + digitText∗ * pointTexts := by
  calc digitTexts * (1 + pointTexts) + pointTexts
      = digitTexts + (1 + digitTexts) * pointTexts := by
        rw [mul_add, mul_one, add_mul, one_mul, add_assoc, add_comm pointTexts]
    _ = digitTexts + digitText∗ * pointTexts := by
        rw [digitTexts, one_add_mul_kstar]

/-- The texts of numbers are those of integers and those of fractions. -/
theorem numberTexts_eq : numberTexts = integerTexts + fractionTexts := by
  rw [numberTexts, unsignedTexts_eq, mul_add, integerTexts, fractionTexts]

/-! ## Recognition -/

variable {s : List Char}

/-- Decimal digits, or none. -/
theorem mem_digitText_kstar_iff : s ∈ digitText∗ ↔ ∀ c ∈ s, isDecimalDigit c = true := by
  rw [Language.mem_kstar]
  constructor
  · rintro ⟨parts, rfl, hparts⟩ c hc
    obtain ⟨part, hpart, hc⟩ := List.mem_flatten.mp hc
    obtain ⟨d, hd, rfl⟩ := hparts part hpart
    rwa [List.mem_singleton.mp hc]
  · intro h
    have hparts : s = (s.map fun c => [c]).flatten := by
      rw [← List.flatMap_def, List.flatMap_singleton']
    refine ⟨s.map fun c => [c], hparts, fun part hpart => ?_⟩
    obtain ⟨c, hc, rfl⟩ := List.mem_map.mp hpart
    exact ⟨c, h c hc, rfl⟩

/-- One decimal digit or more. -/
theorem areDigits_iff_mem : areDigits s = true ↔ s ∈ digitTexts := by
  rw [digitTexts, Language.mem_mul]
  constructor
  · intro h
    cases s with
    | nil => cases h
    | cons c rest =>
      have hall : isDecimalDigit c = true ∧ ∀ d ∈ rest, isDecimalDigit d = true := by
        simpa [areDigits] using h
      exact ⟨[c], ⟨c, hall.1, rfl⟩, rest, mem_digitText_kstar_iff.mpr hall.2, rfl⟩
  · rintro ⟨_, ⟨c, hc, rfl⟩, rest, hrest, rfl⟩
    simpa [areDigits, hc] using mem_digitText_kstar_iff.mp hrest

/-- A point and digits. -/
theorem mem_pointTexts_iff : s ∈ pointTexts ↔ ∃ fraction, s = '.' :: fraction ∧
    areDigits fraction = true := by
  rw [pointTexts, Language.mem_mul]
  constructor
  · rintro ⟨_, rfl, fraction, hfraction, rfl⟩
    exact ⟨fraction, rfl, areDigits_iff_mem.mpr hfraction⟩
  · rintro ⟨fraction, rfl, hfraction⟩
    exact ⟨['.'], rfl, fraction, areDigits_iff_mem.mp hfraction, rfl⟩

/-- A minus sign in front of texts that have none there is taken off. -/
theorem mem_optionalMinus_mul_iff {L : Language Char} (hL : ∀ rest, '-' :: rest ∉ L) :
    s ∈ optionalMinus * L ↔ withoutMinus s ∈ L := by
  have hmul : s ∈ optionalMinus * L ↔ s ∈ L ∨ ∃ rest ∈ L, '-' :: rest = s := by
    rw [optionalMinus, add_mul, one_mul, Language.mem_add, Language.mem_mul]
    constructor
    · rintro (hs | ⟨_, rfl, rest, hrest, rfl⟩)
      · exact .inl hs
      · exact .inr ⟨rest, hrest, rfl⟩
    · rintro (hs | ⟨rest, hrest, rfl⟩)
      · exact .inl hs
      · exact .inr ⟨['-'], rfl, rest, hrest, rfl⟩
  rw [hmul]
  cases hs : s with
  | nil => simp [withoutMinus]
  | cons c rest =>
    by_cases hc : c = '-'
    · subst hc
      simp [withoutMinus, hL]
    · have hne : '-' ≠ c := Ne.symm hc
      simp [withoutMinus, hc, hne]

/-- Behind the digits at its start, a text with a fraction has a point and digits. -/
theorem mem_kstar_mul_pointTexts_iff : s ∈ digitText∗ * pointTexts ↔
    ∃ fraction, s.dropWhile isDecimalDigit = '.' :: fraction ∧ areDigits fraction = true := by
  rw [Language.mem_mul]
  constructor
  · rintro ⟨digits, hdigits, _, hpoint, rfl⟩
    obtain ⟨fraction, rfl, hfraction⟩ := mem_pointTexts_iff.mp hpoint
    rw [List.dropWhile_append_of_pos (mem_digitText_kstar_iff.mp hdigits),
      List.dropWhile_cons_of_neg (by decide)]
    exact ⟨fraction, rfl, hfraction⟩
  · rintro ⟨fraction, hdrop, hfraction⟩
    refine ⟨s.takeWhile isDecimalDigit, ?_, s.dropWhile isDecimalDigit, ?_,
      List.takeWhile_append_dropWhile⟩
    · exact mem_digitText_kstar_iff.mpr (List.all_eq_true.mp List.all_takeWhile)
    · exact mem_pointTexts_iff.mpr ⟨fraction, hdrop, hfraction⟩

/-- Digits do not begin with a minus sign. -/
theorem minus_not_mem_digitTexts (rest : List Char) : '-' :: rest ∉ digitTexts := by
  have hminus : isDecimalDigit '-' = false := by decide
  rw [← areDigits_iff_mem]
  simp [areDigits, hminus]

/-- A fraction does not begin with a minus sign. -/
theorem minus_not_mem_kstar_mul (rest : List Char) : '-' :: rest ∉ digitText∗ * pointTexts := by
  rw [mem_kstar_mul_pointTexts_iff, List.dropWhile_cons_of_neg (by decide)]
  rintro ⟨fraction, hdrop, -⟩
  cases hdrop

/-- The test for the texts of integers recognises their language. -/
theorem isIntegerText_iff_mem : isIntegerText s = true ↔ s ∈ integerTexts := by
  rw [integerTexts, mem_optionalMinus_mul_iff minus_not_mem_digitTexts, isIntegerText,
    areDigits_iff_mem]

/-- The test for the texts of fractions recognises their language. -/
theorem isFractionText_iff_mem : isFractionText s = true ↔ s ∈ fractionTexts := by
  rw [fractionTexts, mem_optionalMinus_mul_iff minus_not_mem_kstar_mul,
    mem_kstar_mul_pointTexts_iff, isFractionText]
  split
  · next fraction hdrop => simp [hdrop]
  · next hdrop =>
    constructor
    · exact fun h => absurd h Bool.false_ne_true
    · rintro ⟨fraction, heq, -⟩
      exact (hdrop fraction heq).elim

/-- Behind the digits at its start, a text of digits has nothing more. -/
theorem areDigits_iff_dropWhile :
    areDigits s = true ↔ s ≠ [] ∧ s.dropWhile isDecimalDigit = [] := by
  simp [areDigits, List.dropWhile_eq_nil_iff]

/-- The test for the texts of numbers recognises their language. -/
theorem isNumberText_iff_mem : isNumberText s = true ↔ s ∈ numberTexts := by
  have hminus (rest : List Char) : '-' :: rest ∉ digitTexts + digitText∗ * pointTexts := by
    rintro (h | h)
    · exact minus_not_mem_digitTexts rest h
    · exact minus_not_mem_kstar_mul rest h
  rw [numberTexts, unsignedTexts_eq, mem_optionalMinus_mul_iff hminus, Language.mem_add,
    mem_kstar_mul_pointTexts_iff, ← areDigits_iff_mem, areDigits_iff_dropWhile, isNumberText]
  generalize withoutMinus s = t
  split
  · next hdrop => simp [hdrop]
  · next fraction hdrop => simp [hdrop]
  · next hnil hpoint =>
    constructor
    · exact fun h => absurd h Bool.false_ne_true
    · rintro (⟨-, hdrop⟩ | ⟨fraction, hdrop, -⟩)
      · exact (hnil hdrop).elim
      · exact (hpoint fraction hdrop).elim

/-- No text is that of an integer and of a fraction: digits end the one, and a point is behind them
in the other. -/
theorem not_mem_fractionTexts (h : s ∈ integerTexts) : s ∉ fractionTexts := by
  rw [← isIntegerText_iff_mem, isIntegerText, areDigits_iff_dropWhile] at h
  rw [fractionTexts, mem_optionalMinus_mul_iff minus_not_mem_kstar_mul,
    mem_kstar_mul_pointTexts_iff, h.2]
  rintro ⟨fraction, hdrop, -⟩
  cases hdrop

end Standard

namespace StandardRule

open Standard

/-- What is numeric is digital or decimal, and nothing is both. -/
theorem numeric_iff_digital_or_decimal [PatternEngine] (v : Value) (args : List Value) :
    (numeric.Passes v args ↔ digital.Passes v args ∨ decimal.Passes v args) ∧
    ¬(digital.Passes v args ∧ decimal.Passes v args) := by
  have hnumeric : numeric.Passes v args ↔ isNumeric v = true := passes_iff_of_plain rfl
  have hdigital : digital.Passes v args ↔ isDigital v = true := passes_iff_of_plain rfl
  have hdecimal : decimal.Passes v args ↔ isDecimal v = true := passes_iff_of_plain rfl
  rw [hnumeric, hdigital, hdecimal]
  cases v with
  | string s =>
    rw [isNumeric, isDigital, isDecimal, isNumberText_iff_mem, isIntegerText_iff_mem,
      isFractionText_iff_mem, numberTexts_eq, Language.mem_add]
    exact ⟨Iff.rfl, fun h => not_mem_fractionTexts h.1 h.2⟩
  | number n => cases n <;> simp [isNumeric, isDigital, isDecimal, Number.isInt, Number.isFloat]
  | _ => simp [isNumeric, isDigital, isDecimal]

end StandardRule

end Rulebook
