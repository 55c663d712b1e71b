import Mathlib.Data.Rat.Cast.CharZero
import Mathlib.Data.List.Induction
import Mathlib.Tactic.FieldSimp
import Mathlib.Tactic.Ring
import Rulebook.Text.Ascii

/-!
# Numerals

What the text of a number in base ten stands for: digits with a point among them, or one digit and
perhaps a fraction in front of an exponent, behind a minus sign or none. The value is rational, and the
text says it exactly.
-/

namespace Rulebook.Text

variable {c : Char}

/-! ## Digits -/

/-- The code points of the digits. -/
theorem isDigit_iff : isDigit c = true ↔ 48 ≤ c.toNat ∧ c.toNat ≤ 57 := by
  simp [isDigit, Char.le_def, UInt32.le_iff_toNat_le]

/-- The value of a digit is its distance from zero. -/
theorem hexDigitValue_of_isDigit (h : isDigit c = true) : hexDigitValue c = c.toNat - 48 := by
  rw [hexDigitValue, if_pos h]

/-- One digit stands for its value. -/
@[simp] theorem digitsValue_singleton (base : Nat) (c : Char) : digitsValue base [c] = hexDigitValue c := by
  simp [digitsValue]

/-- A digit more is the last one of the number. -/
theorem digitsValue_append_singleton (base : Nat) (s : List Char) (c : Char) :
    digitsValue base (s ++ [c]) = base * digitsValue base s + hexDigitValue c := by
  simp [digitsValue, List.foldl_append]

/-- Digits that end in another one than zero stand for no multiple of ten. -/
theorem not_ten_dvd_digitsValue (s : List Char) (h : isDigit c = true) (hne : c ≠ '0') :
    ¬10 ∣ digitsValue 10 (s ++ [c]) := by
  have hrange := isDigit_iff.mp h
  have hzero : c.toNat ≠ 48 := fun heq => hne (Char.toNat_inj.mp heq)
  rw [digitsValue_append_singleton, hexDigitValue_of_isDigit h]
  omega

/-- Digits behind others move these by as many places. -/
theorem digitsValue_append (base : Nat) (s t : List Char) :
    digitsValue base (s ++ t) = digitsValue base s * base ^ t.length + digitsValue base t := by
  induction t using List.reverseRecOn with
  | nil => simp [digitsValue]
  | append_singleton t c ih =>
    rw [← List.append_assoc, digitsValue_append_singleton, ih, digitsValue_append_singleton,
      List.length_append, List.length_singleton]
    ring

/-- Zeros alone stand for zero. -/
theorem digitsValue_replicate_zero (base count : Nat) :
    digitsValue base (List.replicate count '0') = 0 := by
  have hzero : hexDigitValue '0' = 0 := by decide
  induction count with
  | zero => rfl
  | succ count ih =>
    rw [List.replicate_succ', digitsValue_append_singleton, ih, hzero, Nat.mul_zero]

/-! ## Numerals -/

/-- One digit or more. -/
def IsNumeral (s : List Char) : Prop := s ≠ [] ∧ ∀ c ∈ s, isDigit c = true

instance (s : List Char) : Decidable (IsNumeral s) :=
  decidable_of_iff (s ≠ [] ∧ s.all isDigit = true) (and_congr_right fun _ => List.all_eq_true)

/-- What digits behind a point stand for. -/
def fractionValue (s : List Char) : ℚ := digitsValue 10 s / 10 ^ s.length

/-- The text of an exponent: a sign and digits. -/
inductive SpellsExponent : List Char → ℤ → Prop
  | positive {digits : List Char} (hdigits : IsNumeral digits) :
      SpellsExponent ('+' :: digits) (digitsValue 10 digits)
  | negative {digits : List Char} (hdigits : IsNumeral digits) :
      SpellsExponent ('-' :: digits) (-digitsValue 10 digits)

/-- The text of a number without a sign: digits on both sides of a point, or one digit, which is not
zero, and perhaps a fraction in front of an exponent. -/
inductive SpellsMagnitude : List Char → ℚ → Prop
  | positional {whole fraction : List Char} (hwhole : IsNumeral whole)
      (hfraction : IsNumeral fraction) :
      SpellsMagnitude (whole ++ '.' :: fraction) (digitsValue 10 whole + fractionValue fraction)
  | digit {lead : Char} {exponent : List Char} {power : ℤ} (hlead : isDigit lead = true)
      (hne : lead ≠ '0') (hpower : SpellsExponent exponent power) :
      SpellsMagnitude (lead :: 'e' :: exponent) (hexDigitValue lead * 10 ^ power)
  | scientific {lead : Char} {fraction exponent : List Char} {power : ℤ}
      (hlead : isDigit lead = true) (hne : lead ≠ '0') (hfraction : IsNumeral fraction)
      (hpower : SpellsExponent exponent power) :
      SpellsMagnitude (lead :: '.' :: (fraction ++ 'e' :: exponent))
        ((hexDigitValue lead + fractionValue fraction) * 10 ^ power)

/-- The text of a number, behind a minus sign or none. -/
inductive Spells : List Char → ℚ → Prop
  | unsigned {s : List Char} {q : ℚ} (hs : SpellsMagnitude s q) : Spells s q
  | negative {s : List Char} {q : ℚ} (hs : SpellsMagnitude s q) : Spells ('-' :: s) (-q)

/-- No digits add nothing. -/
@[simp] theorem fractionValue_nil : fractionValue [] = 0 := by
  simp [fractionValue, digitsValue]

/-- A zero at the end of a fraction adds nothing. -/
theorem fractionValue_append_zero (s : List Char) : fractionValue (s ++ ['0']) = fractionValue s := by
  have hzero : hexDigitValue '0' = 0 := by decide
  rw [fractionValue, digitsValue_append_singleton, hzero, List.length_append, List.length_singleton,
    fractionValue, pow_succ]
  push_cast
  field_simp
  ring

/-- Digits with a point among them stand for an integer, moved by as many places as there are digits
behind the point. -/
theorem add_fractionValue (whole fraction : List Char) :
    (digitsValue 10 whole : ℚ) + fractionValue fraction =
      digitsValue 10 (whole ++ fraction) / 10 ^ fraction.length := by
  rw [fractionValue, digitsValue_append]
  push_cast
  field_simp

/-- Digits with a point among them spell the integer without the point, moved by as many places as there
are digits behind it. -/
theorem spellsMagnitude_positional {whole fraction : List Char} (hwhole : IsNumeral whole)
    (hfraction : IsNumeral fraction) :
    SpellsMagnitude (whole ++ '.' :: fraction)
      (digitsValue 10 (whole ++ fraction) * 10 ^ (-(fraction.length : ℤ))) := by
  have h := SpellsMagnitude.positional hwhole hfraction
  rwa [add_fractionValue, div_eq_mul_inv, ← zpow_natCast, ← zpow_neg] at h

end Rulebook.Text
