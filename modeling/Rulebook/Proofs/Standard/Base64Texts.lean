import Rulebook.Proofs.Standard.Guards
import Rulebook.Proofs.Text.Base64
import Rulebook.Proofs.Text.Widths

/-!
# Texts of base64

The rule for base64 asks for a pattern, characters of the alphabet and up to two signs of padding behind
them, and for a number of bytes that fills groups of four. Together the two accept groups of four characters
with the padding that fills the last one. These are the texts that stand for bytes, of which there is at
least one.
-/

namespace Rulebook

open Json (Value)
open Text (isLetterOrDigit isLetter isLowerLetter isUpperLetter isDigit)
open Base64 (alphabet padding IsData IsGrouped)

namespace Standard

variable {c : Char} {s : List Char}

/-! ## Characters -/

/-- The characters that carry data are ASCII characters. -/
theorem lt_of_isBase64Char (h : isBase64Char c = true) : c.toNat < 128 := by
  simp only [isBase64Char, isLetterOrDigit, isLetter, isLowerLetter, isUpperLetter, isDigit,
    Bool.or_eq_true, Bool.and_eq_true, decide_eq_true_iff, beq_iff_eq, Char.le_def,
    UInt32.le_iff_toNat_le] at h
  rcases h with ((((⟨-, h⟩ | ⟨-, h⟩) | ⟨-, h⟩) | rfl) | rfl)
  · exact Nat.lt_of_le_of_lt h (by decide)
  · exact Nat.lt_of_le_of_lt h (by decide)
  · exact Nat.lt_of_le_of_lt h (by decide)
  · decide
  · decide

/-- The characters that carry data are those of the alphabet. -/
theorem isBase64Char_iff : isBase64Char c = true ↔ c ∈ alphabet := by
  constructor
  · intro h
    have hall : ∀ n < 128, isBase64Char (Char.ofNat n) = true → Char.ofNat n ∈ alphabet := by
      decide +kernel
    have hmem := hall c.toNat (lt_of_isBase64Char h)
    rw [Char.ofNat_toNat] at hmem
    exact hmem h
  · have hall : alphabet.all isBase64Char = true := by decide +kernel
    exact List.all_eq_true.mp hall c

/-! ## The pattern -/

/-- Characters of the alphabet, at least one, and up to two signs of padding. -/
def IsBase64Pattern (s : List Char) : Prop :=
  ∃ data count, (∀ c ∈ data, c ∈ alphabet) ∧ data ≠ [] ∧ count ≤ 2 ∧
    s = data ++ List.replicate count '='

/-- A text of the pattern has as many bytes as characters. -/
theorem IsBase64Pattern.byteCount_eq (h : IsBase64Pattern s) : Utf8.byteCount s = s.length := by
  obtain ⟨data, count, hdata, -, -, rfl⟩ := h
  refine Utf8.byteCount_eq_length_iff.mpr (List.forall_mem_append.mpr ⟨fun c hc => ?_, fun c hc => ?_⟩)
  · exact lt_of_isBase64Char (isBase64Char_iff.mpr (hdata c hc))
  · obtain rfl := List.eq_of_mem_replicate hc
    decide

/-- The data of the pattern is what is in front of the padding. -/
theorem takeWhile_isBase64Char {data : List Char} (hdata : ∀ c ∈ data, c ∈ alphabet) (count : Nat) :
    (data ++ List.replicate count '=').takeWhile isBase64Char = data := by
  have hpadding : (List.replicate count '=').takeWhile isBase64Char = [] := by
    cases count <;> rfl
  rw [List.takeWhile_append_of_pos fun c hc => isBase64Char_iff.mpr (hdata c hc), hpadding,
    List.append_nil]

/-- The test asks for the pattern and for groups of four bytes. -/
theorem isBase64_iff_pattern :
    isBase64 s = true ↔ IsBase64Pattern s ∧ Utf8.byteCount s % 4 = 0 := by
  unfold isBase64
  extract_lets data rest
  simp only [Bool.and_eq_true, beq_iff_eq, Bool.not_eq_true', List.isEmpty_eq_false_iff,
    decide_eq_true_iff]
  constructor
  · rintro ⟨⟨⟨hlength, hne⟩, hcount⟩, hrest⟩
    have hprefix : data <+: s := List.takeWhile_prefix _
    have hsplit : data ++ rest = s := (List.prefix_iff_eq_append.mp hprefix)
    have hreplicate : rest = List.replicate rest.length '=' :=
      List.eq_replicate_iff.mpr ⟨rfl, by simpa using hrest⟩
    have hmem : ∀ c ∈ data, c ∈ alphabet := fun c hc =>
      isBase64Char_iff.mp (List.all_eq_true.mp List.all_takeWhile c hc)
    have hpattern : IsBase64Pattern s :=
      ⟨data, rest.length, hmem, hne, hcount, by rw [← hreplicate, hsplit]⟩
    exact ⟨hpattern, by rw [hpattern.byteCount_eq, hlength]⟩
  · rintro ⟨hpattern, hbytes⟩
    rw [hpattern.byteCount_eq] at hbytes
    obtain ⟨own, count, hown, hne, hcount, rfl⟩ := hpattern
    have hdata : data = own := takeWhile_isBase64Char hown count
    have hrest : rest = List.replicate count '=' := by
      simp only [rest, hdata, List.drop_left]
    rw [hdata, hrest, List.length_replicate]
    exact ⟨⟨⟨hbytes, hne⟩, hcount⟩, by simp⟩

/-- The test accepts data that is not empty with the padding that fills its last group. -/
theorem isBase64_iff_data :
    isBase64 s = true ↔ ∃ data, IsData data ∧ data ≠ [] ∧ s = data ++ padding data.length := by
  rw [isBase64_iff_pattern]
  constructor
  · rintro ⟨hpattern, hbytes⟩
    rw [hpattern.byteCount_eq] at hbytes
    obtain ⟨data, count, hdata, hne, hcount, rfl⟩ := hpattern
    rw [List.length_append, List.length_replicate] at hbytes
    -- no more than two signs fill the group, so there are as many as are asked for
    have hfill : count = (4 - data.length % 4) % 4 := by omega
    exact ⟨data, ⟨hdata, by omega⟩, hne, by rw [padding, ← hfill]⟩
  · rintro ⟨data, hdata, hne, rfl⟩
    have hmod := hdata.length_mod_ne
    have hpattern : IsBase64Pattern (data ++ padding data.length) :=
      ⟨data, _, hdata.mem_alphabet, hne, by omega, rfl⟩
    refine ⟨hpattern, ?_⟩
    rw [hpattern.byteCount_eq, List.length_append, padding, List.length_replicate]
    omega

/-- The test accepts the texts that stand for bytes, of which there is at least one. -/
theorem isBase64_iff_decode :
    isBase64 s = true ↔ ∃ bytes, bytes ≠ [] ∧ Base64.decode s = some bytes := by
  simp only [isBase64_iff_data, Base64.decode_eq_some_iff]
  constructor
  · rintro ⟨data, hdata, hne, rfl⟩
    exact ⟨_, hdata.bytesOf_ne_nil hne, data, hdata, rfl, rfl⟩
  · rintro ⟨_, hne, data, hdata, rfl, rfl⟩
    refine ⟨data, hdata, ?_, rfl⟩
    rintro rfl
    exact hne rfl

end Standard

namespace StandardRule

open Standard

/-- The rule for base64 accepts exactly groups of four characters of the alphabet, of which the last one may
be three characters and a sign of padding or two and two signs. So it accepts the text of all bytes, if there
are any, and what it accepts stands for bytes, whose text is the same but for bits that are not used. -/
theorem base64_passes_iff [PatternEngine] (s : String) (args : List Value) :
    (base64.Passes (.string s) args ↔ IsGrouped s.toList) ∧
    (∀ bytes, base64.Passes (.string (String.ofList (Base64.encode bytes))) args ↔ bytes ≠ []) ∧
    (∀ bytes, Base64.decode (Base64.encode bytes) = some bytes) ∧
    (base64.Passes (.string s) args ↔ ∃ bytes, bytes ≠ [] ∧ Base64.decode s.toList = some bytes ∧
      Base64.encode bytes = Base64.withoutUnusedBits s.toList) := by
  have hpasses (s : String) : base64.Passes (.string s) args ↔ isBase64 s.toList = true := by
    have hplain : base64.check (.string s) args = plain (onText isBase64) (.string s) := rfl
    exact passes_iff_of_plain hplain
  refine ⟨?_, fun bytes => ?_, Base64.decode_encode, ?_⟩
  · rw [hpasses, isBase64_iff_data, Base64.isGrouped_iff]
  · rw [hpasses, String.toList_ofList, isBase64_iff_decode, Base64.decode_encode]
    simp
  · rw [hpasses, isBase64_iff_decode]
    constructor
    · rintro ⟨bytes, hne, hdecode⟩
      exact ⟨bytes, hne, hdecode, Base64.encode_of_decode hdecode⟩
    · rintro ⟨bytes, hne, hdecode, -⟩
      exact ⟨bytes, hne, hdecode⟩

end StandardRule

end Rulebook
