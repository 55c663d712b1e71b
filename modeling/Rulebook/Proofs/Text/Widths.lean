import Rulebook.Text.Utf8

/-!
# Widths of texts

A text has no fewer bytes than characters, and as many exactly if all its characters are ASCII characters.
-/

namespace Rulebook.Utf8

variable {c : Char} {s : List Char}

/-- The characters of one byte are the ASCII characters. -/
theorem utf8Size_eq_one_iff_lt : c.utf8Size = 1 ↔ c.toNat < 128 := by
  rw [Char.utf8Size_eq_one_iff, UInt32.le_iff_toNat_le]
  exact Nat.lt_succ_iff.symm

/-- A text has no fewer bytes than characters. -/
theorem length_le_byteCount (s : List Char) : s.length ≤ byteCount s := by
  induction s with
  | nil => exact Nat.le_refl 0
  | cons c s ih =>
    have hc := c.utf8Size_pos
    rw [byteCount, List.length_cons]
    omega

/-- A text has as many bytes as characters exactly if all of them are ASCII characters. -/
theorem byteCount_eq_length_iff : byteCount s = s.length ↔ ∀ c ∈ s, c.toNat < 128 := by
  induction s with
  | nil => simp [byteCount]
  | cons c s ih =>
    have hc := c.utf8Size_pos
    have hs := length_le_byteCount s
    -- neither part makes up for bytes that the other one has too many
    have hsplit : c.utf8Size + byteCount s = s.length + 1 ↔
        c.utf8Size = 1 ∧ byteCount s = s.length := by omega
    rw [byteCount, List.length_cons, List.forall_mem_cons, hsplit, ih, utf8Size_eq_one_iff_lt]

end Rulebook.Utf8
