import Mathlib.Data.List.DropRight
import Mathlib.Order.Bounds.Basic
import Mathlib.Tactic.NormNum.Ineq
import Rulebook.Proofs.Description.Regular
import Rulebook.Proofs.Json.FloatTexts
import Rulebook.Proofs.Standard.ArgumentFaults
import Rulebook.Proofs.Standard.Guards

/-!
# Decimal places

The decimal places of a number are read off its text: the digits behind the point up to the last one that
is not zero, less the exponent. This is the least number of places that the rational number written there
needs, because what is left of the digits ends in another digit than zero, or no place is counted at all.
For a finite binary64 number, what is written there is its shortest decimal.
-/

namespace Rulebook

open Json (Value Number)
open Text (isDigit digitsValue hexDigitValue fractionValue IsNumeral Spells SpellsMagnitude
  SpellsExponent)

namespace Standard

variable {c : Char} {s : List Char} {q : ℚ} {k : Nat}

/-! ## Places of rational numbers -/

/-- A rational number has at most so many decimal places: moved by as many, it is an integer. -/
def HasPlaces (q : ℚ) (k : Nat) : Prop := ∃ z : ℤ, q * 10 ^ k = z

/-- The sign of a number does not matter for its places. -/
theorem hasPlaces_neg_iff : HasPlaces (-q) k ↔ HasPlaces q k := by
  constructor
  · rintro ⟨z, hz⟩
    exact ⟨-z, by push_cast; rw [← hz, neg_mul, neg_neg]⟩
  · rintro ⟨z, hz⟩
    exact ⟨-z, by push_cast; rw [← hz, neg_mul]⟩

/-- An integer that is no multiple of ten needs all the places that it is moved by. -/
theorem hasPlaces_iff {m : Nat} {places : ℤ} (h : ¬10 ∣ m ∨ places ≤ 0) :
    HasPlaces (m * 10 ^ (-places)) k ↔ places ≤ k := by
  have hmoved : (m : ℚ) * 10 ^ (-places) * 10 ^ k = m * 10 ^ ((k : ℤ) - places) := by
    rw [mul_assoc, ← zpow_natCast, ← zpow_add₀ (by norm_num), neg_add_eq_sub]
  constructor
  · rintro ⟨z, hz⟩
    by_contra hlt
    -- moved by fewer places, the integer would have to end in a zero
    obtain ⟨rest, hrest⟩ : ∃ rest : Nat, places - k = (rest + 1 : Nat) :=
      ⟨(places - k - 1).toNat, by omega⟩
    have hm : (m : ℚ) = z * 10 ^ (rest + 1) := by
      rw [← hz, hmoved, mul_assoc, ← zpow_natCast, ← zpow_add₀ (by norm_num), ← hrest,
        sub_add_sub_cancel', sub_self, zpow_zero, mul_one]
    have hint : (m : ℤ) = z * 10 ^ rest * 10 := by
      rw [mul_assoc, ← pow_succ]
      exact_mod_cast hm
    have hdvd : 10 ∣ m := by omega
    exact h.elim (fun hnot => hnot hdvd) fun hle => hlt (by omega)
  · intro hle
    refine ⟨m * 10 ^ ((k : ℤ) - places).toNat, ?_⟩
    rw [hmoved]
    push_cast
    rw [← zpow_natCast, Int.toNat_of_nonneg (by omega)]

/-! ## Reading the text -/

/-- Neither the letter of an exponent nor a point is a digit. -/
theorem ne_of_isDigit (h : isDigit c = true) : c ≠ 'e' ∧ c ≠ '.' := by
  constructor <;> rintro rfl <;> exact absurd h (by decide)

/-- Digits do not contain the letter of an exponent. -/
theorem not_mem_of_isNumeral (hs : IsNumeral s) : 'e' ∉ s :=
  fun hmem => (ne_of_isDigit (hs.2 _ hmem)).1 rfl

/-- A character in front of the point and the exponent is skipped. -/
theorem fractionAndExponent_cons (hc : c ≠ 'e' ∧ c ≠ '.') (s : List Char) :
    fractionAndExponent (c :: s) = fractionAndExponent s := by
  simp [fractionAndExponent, hc.1, hc.2]

/-- The digits in front of the point are skipped. -/
theorem fractionAndExponent_append {whole : List Char} (hwhole : ∀ c ∈ whole, isDigit c = true)
    (s : List Char) : fractionAndExponent (whole ++ s) = fractionAndExponent s := by
  induction whole with
  | nil => rfl
  | cons c whole ih =>
    obtain ⟨hc, hrest⟩ := List.forall_mem_cons.mp hwhole
    rw [List.cons_append, fractionAndExponent_cons (ne_of_isDigit hc), ih hrest]

/-- Without an exponent, all that stands behind the point is the fraction. -/
theorem fractionAndExponent_point (h : 'e' ∉ s) : fractionAndExponent ('.' :: s) = (s, 0) := by
  have htake : s.takeWhile (· != 'e') = s := by
    rw [List.takeWhile_eq_self_iff]
    rintro c hc
    simpa using fun heq : c = 'e' => h (heq ▸ hc)
  simp [fractionAndExponent, htake, exponentValue]

/-- The fraction ends in front of the exponent. -/
theorem fractionAndExponent_scientific (h : 'e' ∉ s) (exponent : List Char) :
    fractionAndExponent ('.' :: (s ++ 'e' :: exponent)) = (s, exponentValue exponent) := by
  have htake : (s ++ 'e' :: exponent).takeWhile (· != 'e') = s := by
    rw [List.takeWhile_append_of_pos, List.takeWhile_cons_of_neg, List.append_nil]
    · simp
    · rintro c hc
      simpa using fun heq : c = 'e' => h (heq ▸ hc)
  simp [fractionAndExponent, htake]

/-- An exponent alone leaves no fraction. -/
theorem fractionAndExponent_exponent (exponent : List Char) :
    fractionAndExponent ('e' :: exponent) = ([], exponentValue exponent) := by
  simp [fractionAndExponent]

/-- The digits of an exponent stand for their value. -/
theorem foldl_eq_digitsValue (hs : ∀ c ∈ s, isDigit c = true) :
    s.foldl (fun n c => 10 * n + (c.toNat - 48)) 0 = digitsValue 10 s := by
  rw [digitsValue]
  exact List.foldl_ext _ _ 0 fun n c hc => by rw [Text.hexDigitValue_of_isDigit (hs c hc)]

/-- The value of an exponent is that of its sign and digits. -/
theorem exponentValue_of_spells {power : ℤ} (h : SpellsExponent s power) :
    exponentValue s = power := by
  have hdrop {digits : List Char} (hdigits : IsNumeral digits) :
      digits.dropWhile (fun c => c == '-' || c == '+') = digits := by
    obtain ⟨c, rest, rfl⟩ := List.exists_cons_of_ne_nil hdigits.1
    have hc : isDigit c = true := hdigits.2 c List.mem_cons_self
    refine List.dropWhile_cons_of_neg ?_
    rw [Bool.or_eq_true, beq_iff_eq, beq_iff_eq]
    rintro (rfl | rfl) <;> exact absurd hc (by decide)
  cases h with
  | positive hdigits => simp [exponentValue, hdrop hdigits, foldl_eq_digitsValue hdigits.2]
  | negative hdigits => simp [exponentValue, hdrop hdigits, foldl_eq_digitsValue hdigits.2]

/-! ## Zeros at the end -/

/-- A zero at the end is taken off, and any other character stays. -/
theorem withoutTrailingZeros_append (s : List Char) (c : Char) :
    withoutTrailingZeros (s ++ [c]) = if c = '0' then withoutTrailingZeros s else s ++ [c] := by
  have h : withoutTrailingZeros (s ++ [c]) =
      if (c == '0') = true then withoutTrailingZeros s else s ++ [c] := List.rdropWhile_concat _ s c
  simpa only [beq_iff_eq] using h

/-- Without the zeros at its end, a fraction has the same value. -/
theorem fractionValue_withoutTrailingZeros (s : List Char) :
    fractionValue (withoutTrailingZeros s) = fractionValue s := by
  induction s using List.reverseRecOn with
  | nil => rfl
  | append_singleton s c ih =>
    rw [withoutTrailingZeros_append]
    split
    · next hzero => rw [ih, hzero, Text.fractionValue_append_zero]
    · rfl

/-- Without the zeros at their end, digits are none at all, or end in another digit. -/
theorem withoutTrailingZeros_cases (hs : ∀ c ∈ s, isDigit c = true) :
    withoutTrailingZeros s = [] ∨
      ∃ front last, withoutTrailingZeros s = front ++ [last] ∧ isDigit last = true ∧ last ≠ '0' := by
  induction s using List.reverseRecOn with
  | nil => exact .inl rfl
  | append_singleton s c ih =>
    rw [withoutTrailingZeros_append]
    split
    · exact ih fun d hd => hs d (List.mem_append_left [c] hd)
    · next hne => exact .inr ⟨s, c, rfl, hs c (by simp), hne⟩

/-! ## The number of places -/

/-- As many places as are counted in a text suffice for the number that its parts stand for, and no fewer
do, if there is no exponent or the digits in front of the point are no multiple of ten. -/
theorem placesOfText_le_iff_of_parts (whole : List Char) {fraction : List Char} {power : ℤ}
    (hread : fractionAndExponent s = (fraction, power)) (hfraction : ∀ c ∈ fraction, isDigit c = true)
    (h : power = 0 ∨ ¬10 ∣ digitsValue 10 whole) :
    placesOfText s ≤ k ↔ HasPlaces ((digitsValue 10 whole + fractionValue fraction) * 10 ^ power) k := by
  -- the digits without zeros at their end, moved by the places that they take up
  have hvalue : ((digitsValue 10 whole : ℚ) + fractionValue fraction) * 10 ^ power =
      (digitsValue 10 (whole ++ withoutTrailingZeros fraction) : ℕ) *
        10 ^ (-((withoutTrailingZeros fraction).length - power)) := by
    rw [← fractionValue_withoutTrailingZeros, Text.add_fractionValue, div_mul_eq_mul_div, mul_div_assoc,
      neg_sub, zpow_sub₀ (by norm_num), zpow_natCast]
  have hlast : ¬10 ∣ digitsValue 10 (whole ++ withoutTrailingZeros fraction) ∨
      (withoutTrailingZeros fraction).length - power ≤ 0 := by
    rcases withoutTrailingZeros_cases hfraction with hnil | ⟨front, last, hfront, hdigit, hne⟩
    · rw [hnil, List.append_nil, List.length_nil]
      exact h.symm.imp_right fun hpower => by omega
    · left
      rw [hfront, ← List.append_assoc]
      exact Text.not_ten_dvd_digitsValue (whole ++ front) hdigit hne
  rw [hvalue, hasPlaces_iff hlast, placesOfText, hread]
  exact Int.toNat_le

/-- As many places as are counted in the text of a number without a sign suffice, and no fewer do. -/
theorem placesOfText_le_iff_of_magnitude (h : SpellsMagnitude s q) :
    placesOfText s ≤ k ↔ HasPlaces q k := by
  cases h with
  | @positional whole fraction hwhole hfraction =>
    have hread : fractionAndExponent (whole ++ '.' :: fraction) = (fraction, 0) := by
      rw [fractionAndExponent_append hwhole.2, fractionAndExponent_point (not_mem_of_isNumeral hfraction)]
    simpa using placesOfText_le_iff_of_parts whole hread hfraction.2 (.inl rfl)
  | @digit lead exponent power hlead hne hpower =>
    have hread : fractionAndExponent (lead :: 'e' :: exponent) = ([], power) := by
      rw [fractionAndExponent_cons (ne_of_isDigit hlead), fractionAndExponent_exponent,
        exponentValue_of_spells hpower]
    have hdigit : ¬10 ∣ digitsValue 10 [lead] := Text.not_ten_dvd_digitsValue [] hlead hne
    simpa using placesOfText_le_iff_of_parts [lead] hread (List.forall_mem_nil _) (.inr hdigit)
  | @scientific lead fraction exponent power hlead hne hfraction hpower =>
    have hread : fractionAndExponent (lead :: '.' :: (fraction ++ 'e' :: exponent)) =
        (fraction, power) := by
      rw [fractionAndExponent_cons (ne_of_isDigit hlead),
        fractionAndExponent_scientific (not_mem_of_isNumeral hfraction), exponentValue_of_spells hpower]
    have hdigit : ¬10 ∣ digitsValue 10 [lead] := Text.not_ten_dvd_digitsValue [] hlead hne
    simpa using placesOfText_le_iff_of_parts [lead] hread hfraction.2 (.inr hdigit)

/-- As many places as are counted in the text of a number suffice, and no fewer do. -/
theorem placesOfText_le_iff (h : Spells s q) : placesOfText s ≤ k ↔ HasPlaces q k := by
  cases h with
  | unsigned hs => exact placesOfText_le_iff_of_magnitude hs
  | @negative s q hs =>
    have hread : placesOfText ('-' :: s) = placesOfText s := by
      rw [placesOfText, fractionAndExponent_cons (by decide), placesOfText]
    rw [hread, hasPlaces_neg_iff]
    exact placesOfText_le_iff_of_magnitude hs

/-- The number that a JSON number stands for: an integer, or what the text of a binary64 number says. -/
inductive Denotes : Number → ℚ → Prop
  | int (i : ℤ) : Denotes (.int i) i
  | float {x : Binary64} {q : ℚ} (h : Spells (Json.binary64Text x) q) : Denotes (.float x) q

/-- The decimal places of a number suffice for what it stands for, and no fewer do. -/
theorem decimals_le_iff {m : Number} (h : Denotes m q) : decimals m ≤ k ↔ HasPlaces q k := by
  cases h with
  | int i => exact ⟨fun _ => ⟨i * 10 ^ k, by push_cast; rfl⟩, fun _ => Nat.zero_le k⟩
  | float h => exact placesOfText_le_iff h

end Standard

namespace StandardRule

open Standard

/-- The decimal places of a number are the fewest that what it stands for needs, and a number passes the
rule with an upper bound on them if what it stands for has no more. An integer has none, and a finite
binary64 number stands for its shortest decimal. -/
theorem decimals_isLeast [PatternEngine] {n : Nat} (hn : IsCount n) :
    (∀ m q, Denotes m q →
      IsLeast { k : Nat | HasPlaces q k } (decimals m) ∧
      (maxDecimals.Passes (.number m) [.number (.int n)] ↔ HasPlaces q n)) ∧
    (∀ i : ℤ, Denotes (.int i) i ∧ decimals (.int i) = 0) ∧
    ∀ x : Binary64, x.IsFinite → Denotes (.float x) x.decimalValue := by
  refine ⟨fun m q h => ⟨⟨(decimals_le_iff h).mp le_rfl, fun k hk => (decimals_le_iff h).mpr hk⟩, ?_⟩,
    fun i => ⟨.int i, rfl⟩, fun x hx => .float (Json.spells_binary64Text hx)⟩
  have hcount : countArgument "maxDecimals" [.number (.int n)] 0 = .ok n :=
    countArgument_eq rfl (count?_of_isCount hn)
  have hrule : maxDecimals.check (.number m) [.number (.int n)] =
      tested (withinDecimals (.number m) [.number (.int n)]) := rfl
  have hanswer : withinDecimals (.number m) [.number (.int n)] = .ok (decide (decimals m ≤ n)) := by
    rw [withinDecimals, hcount]
    rfl
  rw [passes_iff_of_tested hrule, hanswer, Except.ok.injEq, decide_eq_true_iff, decimals_le_iff h]

/-- Five quarters have two places, and the ten-millionth below zero has seven. -/
theorem small_floats_places :
    IsCount 2 ∧
    (Denotes (.float ⟨false, 5629499534213120, -52⟩) (5 / 4) ∧
      IsLeast { k : Nat | HasPlaces (5 / 4) k } 2 ∧
      maxDecimals.Passes (.number (.float ⟨false, 5629499534213120, -52⟩)) [.number (.int (2 : Nat))]) ∧
    Denotes (.float ⟨true, 7555786372591432, -76⟩) (-(1 * 10 ^ (-7 : ℤ))) ∧
      IsLeast { k : Nat | HasPlaces (-(1 * 10 ^ (-7 : ℤ))) k } 7 ∧
      ¬maxDecimals.Passes (.number (.float ⟨true, 7555786372591432, -76⟩)) [.number (.int (2 : Nat))] := by
  have hcount : IsCount 2 := by simp [IsCount, Json.Number.ceiling]
  have hquarters : Denotes (.float ⟨false, 5629499534213120, -52⟩) (5 / 4) := by
    have htext : Json.binary64Text ⟨false, 5629499534213120, -52⟩ = ['1'] ++ '.' :: ['2', '5'] := by
      decide +kernel
    have hvalue : (5 / 4 : ℚ) = (digitsValue 10 ['1'] : ℕ) + fractionValue ['2', '5'] := by
      have hfraction : digitsValue 10 ['2', '5'] = 25 := by decide
      have hwhole : digitsValue 10 ['1'] = 1 := by decide
      norm_num [fractionValue, hfraction, hwhole]
    refine .float ?_
    rw [htext, hvalue]
    exact .unsigned (.positional (by decide) (by decide))
  have htenth : Denotes (.float ⟨true, 7555786372591432, -76⟩) (-(1 * 10 ^ (-7 : ℤ))) := by
    have htext : Json.binary64Text ⟨true, 7555786372591432, -76⟩ = '-' :: '1' :: 'e' :: '-' :: ['7'] := by
      decide +kernel
    have hone : hexDigitValue '1' = 1 := by decide
    have hseven : digitsValue 10 ['7'] = 7 := by decide
    refine .float ?_
    rw [htext]
    have hpower : SpellsExponent ('-' :: ['7']) (-(digitsValue 10 ['7'] : ℕ)) := .negative (by decide)
    have hlead : isDigit '1' = true := by decide
    have hdigit := SpellsMagnitude.digit hlead (by decide) hpower
    rw [hone, hseven] at hdigit
    exact .negative (by simpa using hdigit)
  obtain ⟨hquartersLeast, hquartersPass⟩ := (decimals_isLeast hcount).1 _ _ hquarters
  obtain ⟨htenthLeast, htenthPass⟩ := (decimals_isLeast hcount).1 _ _ htenth
  have htwo : decimals (.float ⟨false, 5629499534213120, -52⟩) = 2 := by decide +kernel
  have hseven : decimals (.float ⟨true, 7555786372591432, -76⟩) = 7 := by decide +kernel
  rw [htwo] at hquartersLeast
  rw [hseven] at htenthLeast
  refine ⟨hcount, ⟨hquarters, hquartersLeast, hquartersPass.mpr hquartersLeast.1⟩, htenth,
    htenthLeast, fun hpass => ?_⟩
  have hle : 7 ≤ 2 := htenthLeast.2 (htenthPass.mp hpass)
  omega

end StandardRule

end Rulebook
