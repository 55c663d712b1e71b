import Rulebook.Json.Printer
import Rulebook.Text.Excerpt
import Rulebook.Text.Ticked

/-!
# Text that a terminal shows as it is

A terminal acts on some characters instead of showing them. An excerpt has none of them, whatever the text
is that it is taken from, and neither have numbers. Texts that are put together from such texts have none.
-/

namespace Rulebook.Text

/-- A terminal acts on control characters, zero-width marks and bidirectional controls. -/
def ActsOnTerminal (c : Char) : Prop :=
  c.toNat < 0x20 ∨ (0x7F ≤ c.toNat ∧ c.toNat ≤ 0x9F)
    ∨ (0x200B ≤ c.toNat ∧ c.toNat ≤ 0x200F) ∨ (0x202A ≤ c.toNat ∧ c.toNat ≤ 0x202E)
    ∨ (0x2066 ≤ c.toNat ∧ c.toNat ≤ 0x2069)

instance (c : Char) : Decidable (ActsOnTerminal c) := inferInstanceAs (Decidable (_ ∨ _))

/-- None of the characters is one that a terminal acts on. -/
def AllPrintable (cs : List Char) : Prop := ∀ c ∈ cs, ¬ActsOnTerminal c

/-- None of the characters of a text is one that a terminal acts on. -/
def Printable (s : String) : Prop := AllPrintable s.toList

instance (cs : List Char) : Decidable (AllPrintable cs) := List.decidableBAll _ cs

instance (s : String) : Decidable (Printable s) := inferInstanceAs (Decidable (AllPrintable _))

/-- What is shown as an escape is what a terminal acts on. -/
theorem isUnprintable_iff (c : Char) : isUnprintable c = true ↔ ActsOnTerminal c := by
  simp [isUnprintable, isControl, isDirectional, ActsOnTerminal, or_assoc]

/-! ## Putting texts together -/

theorem allPrintable_nil : AllPrintable [] := fun _ h => by cases h

theorem allPrintable_cons {c : Char} {cs : List Char} :
    AllPrintable (c :: cs) ↔ ¬ActsOnTerminal c ∧ AllPrintable cs :=
  List.forall_mem_cons

theorem allPrintable_append {cs ds : List Char} :
    AllPrintable (cs ++ ds) ↔ AllPrintable cs ∧ AllPrintable ds :=
  List.forall_mem_append

theorem Printable.append {s t : String} (hs : Printable s) (ht : Printable t) :
    Printable (s ++ t) := by
  rw [Printable, String.toList_append]
  exact allPrintable_append.mpr ⟨hs, ht⟩

theorem printable_ofList {cs : List Char} : Printable (String.ofList cs) ↔ AllPrintable cs := by
  rw [Printable, String.toList_ofList]

/-- Texts are put in a row with separators between them. -/
theorem printable_intercalate {separator : String} {texts : List String}
    (hseparator : Printable separator) (htexts : ∀ s ∈ texts, Printable s) :
    Printable (separator.intercalate texts) := by
  rw [Printable, String.toList_intercalate]
  induction texts with
  | nil => exact allPrintable_nil
  | cons s rest ih =>
    obtain ⟨hs, hrest⟩ := List.forall_mem_cons.mp htexts
    cases rest with
    | nil => simpa [Printable] using hs
    | cons t rest =>
      rw [List.map_cons, List.map_cons, List.intercalate_cons_cons]
      exact allPrintable_append.mpr ⟨allPrintable_append.mpr ⟨hs, hseparator⟩, ih hrest⟩

/-- A name between backticks. -/
theorem printable_ticked {name : String} (h : Printable name) : Printable (ticked name) := by
  have htick : Printable "\x60" := by decide
  exact (htick.append h).append htick

/-! ## Numbers -/

theorem not_actsOnTerminal_digitChar (d : Nat) : ¬ActsOnTerminal (Nat.digitChar d) := by
  have hdigits : ∀ d < 16, ¬ActsOnTerminal (Nat.digitChar d) := by decide
  rcases Nat.lt_or_ge d 16 with hd | hd
  · exact hdigits d hd
  · have hstar : Nat.digitChar d = '*' := by
      unfold Nat.digitChar
      iterate 16 rw [if_neg (by omega)]
    rw [hstar]
    decide

theorem allPrintable_toDigits {base : Nat} (hbase : 1 < base) (n : Nat) :
    AllPrintable (Nat.toDigits base n) := by
  induction n using Nat.strongRecOn with
  | ind n ih =>
    rw [Nat.toDigits_eq_if hbase]
    split
    · exact allPrintable_cons.mpr ⟨not_actsOnTerminal_digitChar n, allPrintable_nil⟩
    · next hle =>
      have hless : n / base < n := Nat.div_lt_self (by omega) hbase
      exact allPrintable_append.mpr ⟨ih _ hless,
        allPrintable_cons.mpr ⟨not_actsOnTerminal_digitChar _, allPrintable_nil⟩⟩

theorem printable_toString (n : Nat) : Printable (toString n) := by
  have hdigits : AllPrintable n.repr.toList := by
    rw [Nat.toList_repr]
    exact allPrintable_toDigits (by decide) n
  exact hdigits

theorem allPrintable_integerText (i : Int) : AllPrintable (Json.integerText i) := by
  have hdigits : AllPrintable (Json.decimalText i.natAbs) := allPrintable_toDigits (by decide) _
  unfold Json.integerText
  split
  · exact allPrintable_cons.mpr ⟨by decide, hdigits⟩
  · exact hdigits

/-! ## Excerpts -/

/-- An escape consists of a backslash, letters, digits and braces. -/
theorem allPrintable_escapeText (c : Char) : AllPrintable (escapeText c) := by
  unfold escapeText
  split
  · decide
  · decide
  · decide
  · decide
  · have hhex : AllPrintable (hexText c) := allPrintable_toDigits (by decide) _
    have hopening : AllPrintable ['\\', 'u', '\x7b'] := by decide
    have hclosing : AllPrintable ['\x7d'] := by decide
    exact allPrintable_append.mpr ⟨hopening, allPrintable_append.mpr ⟨hhex, hclosing⟩⟩

theorem allPrintable_shown (c : Char) : AllPrintable (shown c) := by
  unfold shown
  split
  · exact allPrintable_escapeText c
  · next h =>
    exact allPrintable_cons.mpr
      ⟨fun hacts => h ((isUnprintable_iff c).mpr hacts), allPrintable_nil⟩

/-- An excerpt is shown as it is, whatever text it is taken from. -/
theorem allPrintable_excerptChars (cs : List Char) : AllPrintable (excerptChars cs) := by
  refine allPrintable_append.mpr ⟨fun d hd => ?_, ?_⟩
  · obtain ⟨c, _, hc⟩ := List.mem_flatMap.mp hd
    exact allPrintable_shown c d hc
  · split <;> decide

theorem printable_excerpt (s : String) : Printable (excerpt s) :=
  printable_ofList.mpr (allPrintable_excerptChars s.toList)

end Rulebook.Text
