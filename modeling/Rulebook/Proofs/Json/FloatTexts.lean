import Mathlib.Data.Nat.Digits.Defs
import Rulebook.Json.Printer
import Rulebook.Proofs.Decimal.Shortest
import Rulebook.Proofs.Text.Numerals

/-!
# Texts of binary64 numbers

The text of a finite binary64 number says its shortest decimal, in positional or in scientific notation.
-/

namespace Rulebook

open Decimal (AreLeading Digits)
open Text (IsNumeral SpellsExponent SpellsMagnitude Spells digitsValue hexDigitValue isDigit)

/-- The rational number that a decimal stands for. -/
def Decimal.Digits.value (d : Digits) : ℚ :=
  (Nat.ofDigits 10 d.digits.reverse : ℕ) * 10 ^ (d.point - d.digits.length)

/-- The rational number that the shortest decimal of a number stands for. -/
def Binary64.decimalValue (x : Binary64) : ℚ :=
  let magnitude := if x.significand = 0 then 0 else (Decimal.shortest x).value
  if x.negative then -magnitude else magnitude

namespace Json

variable {digits : List Nat} {point : Int} {d : Nat}

/-! ## Digits -/

/-- The digits of base ten as characters. -/
theorem digitChar_spec (h : d < 10) : isDigit (digitChar d) = true ∧ hexDigitValue (digitChar d) = d := by
  have hall : ∀ d < 10, isDigit (digitChar d) = true ∧ hexDigitValue (digitChar d) = d := by decide
  exact hall d h

/-- Digits are a numeral. -/
theorem isNumeral_map (hne : digits ≠ []) (h : ∀ d ∈ digits, d < 10) :
    IsNumeral (digits.map digitChar) := by
  refine ⟨by simpa using hne, fun c hc => ?_⟩
  obtain ⟨d, hd, rfl⟩ := List.mem_map.mp hc
  exact (digitChar_spec (h d hd)).1

/-- The value of digits. -/
theorem digitsValue_map (h : ∀ d ∈ digits, d < 10) :
    digitsValue 10 (digits.map digitChar) = Nat.ofDigits 10 digits.reverse := by
  induction digits using List.reverseRecOn with
  | nil => rfl
  | append_singleton digits d ih =>
    have hdigits : ∀ e ∈ digits, e < 10 := fun e he => h e (List.mem_append_left [d] he)
    have hd : d < 10 := h d (by simp)
    rw [List.map_append, List.map_singleton, Text.digitsValue_append_singleton, ih hdigits,
      (digitChar_spec hd).2, List.reverse_append, List.reverse_singleton, List.singleton_append,
      Nat.ofDigits_cons, Nat.add_comm]

/-- The decimal text of a natural number is a numeral and stands for it. -/
theorem decimalText_spec (n : Nat) : IsNumeral (decimalText n) ∧ digitsValue 10 (decimalText n) = n := by
  induction n using Nat.strong_induction_on with
  | _ n ih =>
    rw [decimalText, Nat.toDigits_eq_if (by decide)]
    split
    · next hlt =>
      obtain ⟨hdigit, hvalue⟩ := digitChar_spec hlt
      exact ⟨⟨List.cons_ne_nil _ _, List.forall_mem_singleton.mpr hdigit⟩,
        (Text.digitsValue_singleton 10 _).trans hvalue⟩
    · next hge =>
      obtain ⟨⟨-, hall⟩, hvalue⟩ := ih (n / 10) (by omega)
      obtain ⟨hdigit, hlast⟩ := digitChar_spec (Nat.mod_lt n (by decide))
      constructor
      · exact ⟨by simp, List.forall_mem_append.mpr ⟨hall, List.forall_mem_singleton.mpr hdigit⟩⟩
      · rw [Text.digitsValue_append_singleton, ← decimalText, hvalue, ← digitChar, hlast]
        omega

/-! ## Notations -/

/-- Zeros in front of or behind a numeral leave a numeral. -/
theorem isNumeral_zeros (count : Nat) {s : List Char} (hs : IsNumeral s) :
    IsNumeral (List.replicate count '0' ++ s) ∧ IsNumeral (s ++ List.replicate count '0') := by
  have hzero : isDigit '0' = true := by decide
  have hzeros : ∀ c ∈ List.replicate count '0', isDigit c = true := fun c hc =>
    List.eq_of_mem_replicate hc ▸ hzero
  constructor
  · exact ⟨List.append_ne_nil_of_right_ne_nil _ hs.1, List.forall_mem_append.mpr ⟨hzeros, hs.2⟩⟩
  · exact ⟨List.append_ne_nil_of_left_ne_nil hs.1 _, List.forall_mem_append.mpr ⟨hs.2, hzeros⟩⟩

/-- The value of a decimal, from its digits as characters. -/
theorem value_eq (h : AreLeading digits) (point : Int) : Digits.value ⟨digits, point⟩ =
    digitsValue 10 (digits.map digitChar) * 10 ^ (point - (digits.map digitChar).length) := by
  rw [digitsValue_map h.lt_ten, List.length_map, Digits.value]

/-- Positional notation says the decimal. -/
theorem spells_positionalText (h : AreLeading digits) (point : Int) :
    SpellsMagnitude (positionalText digits point) (Digits.value ⟨digits, point⟩) := by
  have hds : IsNumeral (digits.map digitChar) := isNumeral_map h.ne_nil h.lt_ten
  have hzero : IsNumeral ['0'] := by decide
  rw [value_eq h, positionalText]
  generalize digits.map digitChar = ds at hds
  split
  · -- all digits are behind the point, and perhaps zeros in front of them
    next hpoint =>
    have hspells := Text.spellsMagnitude_positional hzero (isNumeral_zeros point.natAbs hds).1
    have hvalue : digitsValue 10 (['0'] ++ (List.replicate point.natAbs '0' ++ ds)) = digitsValue 10 ds := by
      rw [← List.append_assoc, ← List.replicate_one, List.replicate_append_replicate,
        Text.digitsValue_append, Text.digitsValue_replicate_zero, Nat.zero_mul, Nat.zero_add]
    have hpower : -((List.replicate point.natAbs '0' ++ ds).length : ℤ) = point - ds.length := by
      rw [List.length_append, List.length_replicate]
      omega
    rwa [hvalue, hpower] at hspells
  · split
    · -- all digits are in front of the point, and perhaps zeros behind them
      next hlength =>
      have hspells := Text.spellsMagnitude_positional
        (isNumeral_zeros (point.toNat - ds.length) hds).2 hzero
      have hvalue : digitsValue 10 (ds ++ List.replicate (point.toNat - ds.length) '0' ++ ['0']) =
          digitsValue 10 ds * 10 ^ (point.toNat - ds.length + 1) := by
        rw [List.append_assoc, ← List.replicate_succ', Text.digitsValue_append,
          Text.digitsValue_replicate_zero, Nat.add_zero, List.length_replicate]
      have hpower : ((point.toNat - ds.length + 1 : ℕ) : ℤ) + -1 = point - ds.length := by omega
      rw [hvalue, Nat.cast_mul, Nat.cast_pow, Nat.cast_ofNat, mul_assoc, ← zpow_natCast,
        ← zpow_add₀ (by norm_num), List.length_singleton, Nat.cast_one, hpower] at hspells
      rwa [List.append_assoc] at hspells ⊢
    · next hpoint hlength =>
      have htake : IsNumeral (ds.take point.toNat) :=
        ⟨by simp [hds.1]; omega, fun c hc => hds.2 c (List.mem_of_mem_take hc)⟩
      have hdrop : IsNumeral (ds.drop point.toNat) :=
        ⟨by simpa using hlength, fun c hc => hds.2 c (List.mem_of_mem_drop hc)⟩
      have hspells := Text.spellsMagnitude_positional htake hdrop
      have hpower : -((ds.drop point.toNat).length : ℤ) = point - ds.length := by
        rw [List.length_drop]
        omega
      rwa [List.take_append_drop, hpower] at hspells

/-- Scientific notation says the decimal. -/
theorem spells_scientificText (h : AreLeading digits) (point : Int) :
    SpellsMagnitude (scientificText digits point) (Digits.value ⟨digits, point⟩) := by
  obtain ⟨first, rest, rfl, hne⟩ := h.exists_cons
  have hexponent : SpellsExponent
      ((if point - 1 < 0 then '-' else '+') :: decimalText (point - 1).natAbs) (point - 1) := by
    obtain ⟨hnumeral, hvalue⟩ := decimalText_spec (point - 1).natAbs
    split
    · have hneg : point - 1 = -(digitsValue 10 (decimalText (point - 1).natAbs) : ℕ) := by omega
      nth_rewrite 2 [hneg]
      exact .negative hnumeral
    · have hpos : point - 1 = (digitsValue 10 (decimalText (point - 1).natAbs) : ℕ) := by omega
      nth_rewrite 2 [hpos]
      exact .positive hnumeral
  have hfirst : first < 10 := h.lt_ten first List.mem_cons_self
  obtain ⟨hlead, hvalue⟩ := digitChar_spec hfirst
  have hnonzero : digitChar first ≠ '0' := by
    intro hzero
    rw [hzero] at hvalue
    exact hne hvalue.symm
  rw [value_eq h, scientificText, List.map_cons]
  cases hrest : rest.map digitChar with
  | nil =>
    have hspells := SpellsMagnitude.digit hlead hnonzero hexponent
    rwa [← Text.digitsValue_singleton 10] at hspells
  | cons second others =>
    have hfraction : IsNumeral (second :: others) := by
      rw [← hrest]
      refine isNumeral_map ?_ fun d hd => h.lt_ten d (List.mem_cons_of_mem first hd)
      rintro rfl
      cases hrest
    have hspells := SpellsMagnitude.scientific hlead hnonzero hfraction hexponent
    rw [← Text.digitsValue_singleton 10, Text.add_fractionValue, div_mul_eq_mul_div, mul_div_assoc,
      ← zpow_natCast, ← zpow_sub₀ (by norm_num), sub_sub] at hspells
    have hlength : ((digitChar first :: second :: others).length : ℤ) = 1 + (second :: others).length := by
      rw [List.length_cons, Nat.cast_add, Nat.cast_one, add_comm]
    rw [hlength]
    exact hspells

/-- The text of a finite number says its shortest decimal. -/
theorem spells_binary64Text {x : Binary64} (hx : x.IsFinite) : Spells (binary64Text x) x.decimalValue := by
  have hzero : IsNumeral ['0'] := by decide
  have hmagnitude : SpellsMagnitude
      (if x.significand = 0 then ['0', '.', '0']
        else
          let d := Decimal.shortest x
          if isPositional d.point then positionalText d.digits d.point
          else scientificText d.digits d.point)
      (if x.significand = 0 then 0 else (Decimal.shortest x).value) := by
    split
    · have hspells := Text.spellsMagnitude_positional hzero hzero
      have hvalue : digitsValue 10 (['0'] ++ ['0']) = 0 := by decide
      rwa [hvalue, Nat.cast_zero, zero_mul] at hspells
    · next hne =>
      have hdigits := Decimal.areLeading_shortest hx hne
      dsimp only
      split
      · exact spells_positionalText hdigits _
      · exact spells_scientificText hdigits _
  rw [binary64Text, Binary64.decimalValue]
  dsimp only
  split
  · exact .negative hmagnitude
  · exact .unsigned hmagnitude

end Json

end Rulebook
