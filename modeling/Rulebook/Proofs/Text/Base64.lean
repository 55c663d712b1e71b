import Mathlib.Data.List.Basic
import Mathlib.Data.List.TakeWhile

/-!
# Base64

Every character of the alphabet stands for six bits, so that four characters stand for three bytes. Where
the last group of bytes has one or two of them only, two or three characters stand for it, whose last bits are
not used, and signs of padding fill the group of characters. What is encoded is decoded again; a text whose
unused bits are not zero is decoded as if they were.
-/

namespace Rulebook.Base64

/-- The characters that stand for six bits, in the order of the numbers that they stand for. -/
def alphabet : List Char :=
  "ABCDEFGHIJKLMNOPQRSTUVWXYZabcdefghijklmnopqrstuvwxyz0123456789+/".toList

/-- The character that stands for a number of six bits. -/
def symbol (n : Nat) : Char := alphabet.getD n '='

/-- The number of six bits that a character stands for. -/
def value (c : Char) : Nat := alphabet.idxOf c

/-- The padding behind so many characters. -/
def padding (count : Nat) : List Char := List.replicate ((4 - count % 4) % 4) '='

/-- The numbers of six bits that bytes are split into. -/
def sextets : List UInt8 → List Nat
  | [] => []
  | [x] => [x.toNat / 4, x.toNat % 4 * 16]
  | [x, y] => [x.toNat / 4, x.toNat % 4 * 16 + y.toNat / 16, y.toNat % 16 * 4]
  | x :: y :: z :: rest =>
    x.toNat / 4 :: (x.toNat % 4 * 16 + y.toNat / 16) :: (y.toNat % 16 * 4 + z.toNat / 64)
      :: z.toNat % 64 :: sextets rest

/-- The bytes that numbers of six bits make up. Bits that are left over are not looked at. -/
def bytesOf : List Nat → List UInt8
  | a :: b :: c :: d :: rest =>
    .ofNat (a * 4 + b / 16) :: .ofNat (b % 16 * 16 + c / 4) :: .ofNat (c % 4 * 64 + d)
      :: bytesOf rest
  | [a, b, c] => [.ofNat (a * 4 + b / 16), .ofNat (b % 16 * 16 + c / 4)]
  | [a, b] => [.ofNat (a * 4 + b / 16)]
  | _ => []

/-- The text that stands for bytes. -/
def encode (bytes : List UInt8) : List Char :=
  let data := (sextets bytes).map symbol
  data ++ padding data.length

/-- The bytes that a text stands for, if it is one of base64. -/
def decode (s : List Char) : Option (List UInt8) :=
  let data := s.takeWhile (· != '=')
  if data.all alphabet.contains && data.length % 4 != 1 && s.drop data.length == padding data.length
  then some (bytesOf (data.map value))
  else none

/-- Numbers of six bits, with zeros for the bits that are left over. -/
def withoutUnused : List Nat → List Nat
  | a :: b :: c :: d :: rest => a :: b :: c :: d :: withoutUnused rest
  | [a, b, c] => [a, b, c / 4 * 4]
  | [a, b] => [a, b / 16 * 16]
  | rest => rest

/-- A text with zeros for the bits that are not used. -/
def withoutUnusedBits (s : List Char) : List Char :=
  let data := s.takeWhile (· != '=')
  (withoutUnused (data.map value)).map symbol ++ padding data.length

/-- Characters of the alphabet, as many as bytes can be split into. -/
structure IsData (data : List Char) : Prop where
  mem_alphabet : ∀ c ∈ data, c ∈ alphabet
  length_mod_ne : data.length % 4 ≠ 1

/-! ## Groups -/

/-- Four characters of the alphabet. -/
def IsGroup (g : List Char) : Prop := g.length = 4 ∧ ∀ c ∈ g, c ∈ alphabet

/-- Four characters of the alphabet, three and a sign of padding, or two and two signs. -/
def IsLastGroup (g : List Char) : Prop :=
  ∃ data, (∀ c ∈ data, c ∈ alphabet) ∧
    (data.length = 4 ∧ g = data ∨ data.length = 3 ∧ g = data ++ ['='] ∨
      data.length = 2 ∧ g = data ++ ['=', '='])

/-- Groups of four characters, of which the last one may have padding. -/
def IsGrouped (s : List Char) : Prop :=
  ∃ (groups : List (List Char)) (last : List Char), (∀ g ∈ groups, IsGroup g) ∧
    IsLastGroup last ∧ s = groups.flatten ++ last

variable {data s : List Char} {c : Char} {n : Nat} {bytes : List UInt8}

/-! ## Characters -/

/-- The character for a number stands for that number. -/
theorem value_symbol (hn : n < 64) : value (symbol n) = n := by
  have hall : ∀ n < 64, value (symbol n) = n := by decide +kernel
  exact hall n hn

/-- Numbers of six bits have characters of the alphabet. -/
theorem symbol_mem_alphabet (hn : n < 64) : symbol n ∈ alphabet := by
  have hall : ∀ n < 64, symbol n ∈ alphabet := by decide +kernel
  exact hall n hn

/-- The sign of padding is no character of the alphabet. -/
theorem ne_padding_of_mem (hc : c ∈ alphabet) : c ≠ '=' := by
  rintro rfl
  exact absurd hc (by decide)

/-- The number for a character of the alphabet has six bits. -/
theorem value_lt (hc : c ∈ alphabet) : value c < 64 := List.idxOf_lt_length_of_mem hc

/-- Padding begins where the characters of the alphabet end. -/
theorem takeWhile_data (hdata : ∀ c ∈ data, c ∈ alphabet) :
    (data ++ padding data.length).takeWhile (· != '=') = data := by
  have hne : ∀ c ∈ data, (c != '=') = true := fun c hc => by simpa using ne_padding_of_mem (hdata c hc)
  have hpadding : (padding data.length).takeWhile (· != '=') = [] := by
    unfold padding
    cases (4 - data.length % 4) % 4 <;> rfl
  rw [List.takeWhile_append_of_pos hne, hpadding, List.append_nil]

/-! ## Bytes and numbers of six bits -/

/-- The numbers that bytes are split into have six bits. -/
theorem sextets_lt (bytes : List UInt8) : ∀ n ∈ sextets bytes, n < 64 := by
  fun_induction sextets bytes with
  | case1 => simp
  | case2 x =>
    have hx := x.toNat_lt
    simp only [List.forall_mem_cons]
    exact ⟨by omega, by omega, by simp⟩
  | case3 x y =>
    have hx := x.toNat_lt
    have hy := y.toNat_lt
    simp only [List.forall_mem_cons]
    exact ⟨by omega, by omega, by omega, by simp⟩
  | case4 x y z rest ih =>
    have hx := x.toNat_lt
    have hy := y.toNat_lt
    have hz := z.toNat_lt
    simp only [List.forall_mem_cons]
    exact ⟨by omega, by omega, by omega, by omega, ih⟩

/-- Three bytes are split into four numbers. -/
theorem length_sextets (bytes : List UInt8) : (sextets bytes).length = (4 * bytes.length + 2) / 3 := by
  fun_induction sextets bytes with
  | case1 => simp
  | case2 x => simp
  | case3 x y => simp
  | case4 x y z rest ih =>
    simp only [List.length_cons, ih]
    omega

/-- Bytes are made up again of the numbers that they are split into. -/
theorem bytesOf_sextets (bytes : List UInt8) : bytesOf (sextets bytes) = bytes := by
  have hbyte {x : UInt8} {n : Nat} (h : n = x.toNat) : UInt8.ofNat n = x := by
    rw [h, UInt8.ofNat_toNat]
  fun_induction sextets bytes with
  | case1 => rfl
  | case2 x =>
    have hx := x.toNat_lt
    rw [bytesOf, hbyte (x := x) (by omega)]
  | case3 x y =>
    have hx := x.toNat_lt
    have hy := y.toNat_lt
    rw [bytesOf, hbyte (x := x) (by omega), hbyte (x := y) (by omega)]
  | case4 x y z rest ih =>
    have hx := x.toNat_lt
    have hy := y.toNat_lt
    have hz := z.toNat_lt
    rw [bytesOf, ih, hbyte (x := x) (by omega), hbyte (x := y) (by omega), hbyte (x := z) (by omega)]

/-- Numbers that bytes are made up of are split off them again, but for the bits that are left over. -/
theorem sextets_bytesOf {ns : List Nat} (hns : ∀ n ∈ ns, n < 64) (hlength : ns.length % 4 ≠ 1) :
    sextets (bytesOf ns) = withoutUnused ns := by
  have hbyte {n : Nat} (h : n < 256) : (UInt8.ofNat n).toNat = n := UInt8.toNat_ofNat_of_lt h
  fun_induction bytesOf ns with
  | case1 a b c d rest ih =>
    simp only [List.forall_mem_cons] at hns
    obtain ⟨ha, hb, hc, hd, hrest⟩ := hns
    simp only [List.length_cons] at hlength
    rw [sextets, withoutUnused, ih hrest (by omega), hbyte (by omega), hbyte (by omega),
      hbyte (by omega)]
    simp only [List.cons.injEq, and_true]
    omega
  | case2 a b c =>
    simp only [List.forall_mem_cons] at hns
    obtain ⟨ha, hb, hc, -⟩ := hns
    rw [sextets, withoutUnused, hbyte (by omega), hbyte (by omega)]
    simp only [List.cons.injEq, and_true]
    omega
  | case3 a b =>
    simp only [List.forall_mem_cons] at hns
    obtain ⟨ha, hb, -⟩ := hns
    rw [sextets, withoutUnused, hbyte (by omega)]
    simp only [List.cons.injEq, and_true]
    omega
  | case4 ns hfour hthree htwo =>
    match ns, hlength with
    | [], _ => rfl
    | [_, _], _ => exact (htwo _ _ rfl).elim
    | [_, _, _], _ => exact (hthree _ _ _ rfl).elim
    | _ :: _ :: _ :: _ :: _, _ => exact (hfour _ _ _ _ _ rfl).elim

/-- There are as many numbers with bits that are left over as without. -/
theorem length_withoutUnused (ns : List Nat) : (withoutUnused ns).length = ns.length := by
  fun_induction withoutUnused ns with
  | case1 a b c d rest ih => simp only [List.length_cons, ih]
  | case2 a b c => rfl
  | case3 a b => rfl
  | case4 => rfl

/-- Two numbers make up a byte. -/
theorem bytesOf_ne_nil {ns : List Nat} (h : 2 ≤ ns.length) : bytesOf ns ≠ [] := by
  match ns, h with
  | [_, _], _ | [_, _, _], _ | _ :: _ :: _ :: _ :: _, _ => simp [bytesOf]

/-! ## Texts -/

/-- Data as the text of bytes has it. -/
theorem isData_sextets (bytes : List UInt8) : IsData ((sextets bytes).map symbol) := by
  refine ⟨fun c hc => ?_, ?_⟩
  · obtain ⟨n, hn, rfl⟩ := List.mem_map.mp hc
    exact symbol_mem_alphabet (sextets_lt bytes n hn)
  · rw [List.length_map, length_sextets]
    omega

/-- The texts that are decoded are data with their padding. -/
theorem decode_eq_some_iff : decode s = some bytes ↔
    ∃ data, IsData data ∧ s = data ++ padding data.length ∧ bytes = bytesOf (data.map value) := by
  unfold decode
  extract_lets data
  constructor
  · intro h
    split at h
    · next hdata =>
      simp only [Bool.and_eq_true, List.all_eq_true, List.contains_iff_mem, bne_iff_ne, ne_eq,
        beq_iff_eq] at hdata
      obtain ⟨⟨hmem, hlength⟩, hpadding⟩ := hdata
      have hprefix : data <+: s := List.takeWhile_prefix _
      refine ⟨data, ⟨hmem, hlength⟩, ?_, (Option.some.inj h).symm⟩
      rw [← hpadding]
      exact List.prefix_iff_eq_append.mp hprefix |>.symm
    · cases h
  · rintro ⟨own, hown, rfl, rfl⟩
    have hdata : data = own := takeWhile_data hown.mem_alphabet
    rw [if_pos, hdata]
    simp [hdata, hown.length_mod_ne]
    exact hown.mem_alphabet

/-- What is encoded is decoded again. -/
theorem decode_encode (bytes : List UInt8) : decode (encode bytes) = some bytes := by
  refine decode_eq_some_iff.mpr ⟨_, isData_sextets bytes, rfl, ?_⟩
  have hvalues : ∀ n ∈ sextets bytes, (value ∘ symbol) n = n :=
    fun n hn => value_symbol (sextets_lt bytes n hn)
  rw [List.map_map, List.map_congr_left hvalues, List.map_id', bytesOf_sextets]

example : encode [104, 101, 108, 108, 111] = "aGVsbG8=".toList := by decide

/-- What is decoded is encoded as the same text, but for the bits that are not used. -/
theorem encode_of_decode (h : decode s = some bytes) : encode bytes = withoutUnusedBits s := by
  obtain ⟨data, hdata, rfl, rfl⟩ := decode_eq_some_iff.mp h
  have hvalues : ∀ n ∈ data.map value, n < 64 := by
    intro n hn
    obtain ⟨c, hc, rfl⟩ := List.mem_map.mp hn
    exact value_lt (hdata.mem_alphabet c hc)
  have hlength : (data.map value).length % 4 ≠ 1 := by
    rw [List.length_map]
    exact hdata.length_mod_ne
  simp only [encode, withoutUnusedBits, takeWhile_data hdata.mem_alphabet,
    sextets_bytesOf hvalues hlength, List.length_map, length_withoutUnused]

/-- Data that is not empty stands for a byte at least. -/
theorem IsData.bytesOf_ne_nil (h : IsData data) (hne : data ≠ []) : bytesOf (data.map value) ≠ [] := by
  have hlength := List.length_pos_iff.mpr hne
  have hmod := h.length_mod_ne
  refine Base64.bytesOf_ne_nil ?_
  rw [List.length_map]
  omega

/-! ## Groups of characters -/

/-- What is as long as some groups of four is such groups. -/
theorem exists_groups {count : Nat} (h : data.length = 4 * count) :
    ∃ groups : List (List Char), (∀ g ∈ groups, g.length = 4) ∧ data = groups.flatten := by
  induction count generalizing data with
  | zero => exact ⟨[], by simp, List.eq_nil_of_length_eq_zero h⟩
  | succ count ih =>
    have hdrop : (data.drop 4).length = 4 * count := by
      rw [List.length_drop]
      omega
    obtain ⟨groups, hgroups, hrest⟩ := ih hdrop
    refine ⟨data.take 4 :: groups, List.forall_mem_cons.mpr ⟨?_, hgroups⟩, ?_⟩
    · rw [List.length_take]
      omega
    · rw [List.flatten_cons, ← hrest, List.take_append_drop]

/-- Groups of four are as long as four times their number. -/
theorem length_flatten_groups {groups : List (List Char)} (h : ∀ g ∈ groups, g.length = 4) :
    groups.flatten.length = 4 * groups.length := by
  induction groups with
  | nil => rfl
  | cons g groups ih =>
    obtain ⟨hg, hgroups⟩ := List.forall_mem_cons.mp h
    rw [List.flatten_cons, List.length_append, hg, ih hgroups, List.length_cons]
    omega

/-- Padding fills the last group only. -/
theorem padding_add (count n : Nat) : padding (4 * count + n) = padding n := by
  rw [padding, padding, Nat.mul_add_mod]

/-- A last group is data of two to four characters with its padding. -/
theorem isLastGroup_iff {g : List Char} : IsLastGroup g ↔
    ∃ data, (∀ c ∈ data, c ∈ alphabet) ∧ 2 ≤ data.length ∧ data.length ≤ 4 ∧
      g = data ++ padding data.length := by
  have hcases {data : List Char} : 2 ≤ data.length ∧ data.length ≤ 4 ∧
      g = data ++ padding data.length ↔ data.length = 4 ∧ g = data ∨
        data.length = 3 ∧ g = data ++ ['='] ∨ data.length = 2 ∧ g = data ++ ['=', '='] := by
    constructor
    · rintro ⟨hleast, hmost, hg⟩
      have hlength : data.length = 4 ∨ data.length = 3 ∨ data.length = 2 := by omega
      rcases hlength with hlength | hlength | hlength <;> rw [hlength] at hg
      · exact .inl ⟨hlength, hg.trans (List.append_nil data)⟩
      · exact .inr (.inl ⟨hlength, hg⟩)
      · exact .inr (.inr ⟨hlength, hg⟩)
    · rintro (⟨hlength, rfl⟩ | ⟨hlength, rfl⟩ | ⟨hlength, rfl⟩) <;> rw [hlength]
      · exact ⟨by decide, by decide, (List.append_nil g).symm⟩
      · exact ⟨by decide, by decide, rfl⟩
      · exact ⟨by decide, by decide, rfl⟩
  simp only [IsLastGroup, hcases]

/-- Texts of groups are data that is not empty with its padding. -/
theorem isGrouped_iff : IsGrouped s ↔
    ∃ data, IsData data ∧ data ≠ [] ∧ s = data ++ padding data.length := by
  constructor
  · rintro ⟨groups, last, hgroups, hlast, rfl⟩
    obtain ⟨own, hown, hleast, hmost, rfl⟩ := isLastGroup_iff.mp hlast
    have hlength := length_flatten_groups fun g hg => (hgroups g hg).1
    have hdata : (groups.flatten ++ own).length = 4 * groups.length + own.length := by
      rw [List.length_append, hlength]
    refine ⟨groups.flatten ++ own, ⟨List.forall_mem_append.mpr ⟨fun c hc => ?_, hown⟩, ?_⟩, ?_, ?_⟩
    · obtain ⟨g, hg, hc⟩ := List.mem_flatten.mp hc
      exact (hgroups g hg).2 c hc
    · omega
    · exact List.ne_nil_of_length_pos (by omega)
    · rw [hdata, padding_add, List.append_assoc]
  · rintro ⟨data, hdata, hne, rfl⟩
    have hpos := List.length_pos_iff.mpr hne
    have hmod := hdata.length_mod_ne
    -- the last group has as many characters as are left over, or four
    obtain ⟨count, rest, hlength, hleast, hmost⟩ :
        ∃ count rest, data.length = 4 * count + rest ∧ 2 ≤ rest ∧ rest ≤ 4 :=
      ⟨(data.length - 1) / 4, data.length - 4 * ((data.length - 1) / 4), by omega, by omega, by omega⟩
    have hfront : (data.take (4 * count)).length = 4 * count := by
      rw [List.length_take]
      omega
    have hback : (data.drop (4 * count)).length = rest := by
      rw [List.length_drop]
      omega
    obtain ⟨groups, hgroups, hflatten⟩ := exists_groups hfront
    refine ⟨groups, data.drop (4 * count) ++ padding rest, fun g hg => ⟨hgroups g hg, fun c hc => ?_⟩,
      isLastGroup_iff.mpr ⟨data.drop (4 * count), fun c hc => ?_, ?_, ?_, by rw [hback]⟩, ?_⟩
    · have hmem : c ∈ data.take (4 * count) := by
        rw [hflatten]
        exact List.mem_flatten.mpr ⟨g, hg, hc⟩
      exact hdata.mem_alphabet c (List.mem_of_mem_take hmem)
    · exact hdata.mem_alphabet c (List.mem_of_mem_drop hc)
    · rwa [hback]
    · rwa [hback]
    · rw [← hflatten, ← List.append_assoc, List.take_append_drop, hlength, padding_add]

end Rulebook.Base64
