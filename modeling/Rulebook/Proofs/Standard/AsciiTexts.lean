import Rulebook.Proofs.Standard.ArgumentFaults
import Rulebook.Proofs.Standard.Guards
import Rulebook.Proofs.Text.Widths

/-!
# ASCII texts

Some rules for texts count bytes or know the characters of ASCII only, others count code points or know
all characters. For ASCII texts there is no difference between them. Every other text has more bytes than
code points, and it has a character that the rules for ASCII do not know.
-/

namespace Rulebook

open Json (Value)
open Text (isAsciiChar isAsciiControl)

namespace Standard

variable {c : Char} {s : String} {n : Nat}

/-! ## Characters -/

/-- Among ASCII characters there are no control characters but those of ASCII. -/
theorem isAsciiControl_eq (h : isAsciiChar c = true) : isAsciiControl c = Text.isControl c := by
  have hc : c.toNat < 128 := by simpa [isAsciiChar] using h
  rw [Bool.eq_iff_iff]
  simp only [isAsciiControl, Text.isControl, Bool.or_eq_true, Bool.and_eq_true, decide_eq_true_iff,
    beq_iff_eq]
  omega

/-- Printable ASCII text is ASCII text that is printable. -/
theorem isAsciiPrintable_eq (cs : List Char) :
    isAsciiPrintable cs = (isAscii cs && isPrintable cs) := by
  induction cs with
  | nil => rfl
  | cons c cs ih =>
    simp only [isAsciiPrintable, isAscii, isPrintable, List.all_cons, List.any_cons] at ih ⊢
    rw [ih]
    cases hc : isAsciiChar c with
    | false => rfl
    | true =>
      rw [isAsciiControl_eq hc, Bool.true_and, Bool.true_and, Bool.not_or, Bool.and_left_comm]

/-- ASCII text of several lines is ASCII text that is text of several lines. -/
theorem isAsciiMultiLine_eq (cs : List Char) :
    isAsciiMultiLine cs = (isAscii cs && isMultiLine cs) := by
  induction cs with
  | nil => rfl
  | cons c cs ih =>
    simp only [isAsciiMultiLine, isAscii, isMultiLine, List.all_cons] at ih ⊢
    rw [ih]
    cases hc : isAsciiChar c with
    | false => rfl
    | true => rw [isAsciiControl_eq hc, Bool.true_and, Bool.true_and, Bool.and_left_comm]

/-! ## Lengths -/

/-- A text is an ASCII text exactly if it has as many bytes as code points. -/
theorem isAscii_iff_byteCount {cs : List Char} :
    isAscii cs = true ↔ Utf8.byteCount cs = cs.length := by
  simp [isAscii, isAsciiChar, Utf8.byteCount_eq_length_iff]

/-- What can be measured is compared with the count in the argument. -/
theorem measured_eq {rule : String} {measure : Value → Option Nat} {relation : Nat → Nat → Bool}
    {v : Value} {m : Nat} (hn : IsCount n) (hm : measure v = some m) :
    measured rule measure relation v [.number (.int n)] = .ok (relation m n) := by
  have hcount : countArgument rule [.number (.int n)] 0 = .ok n :=
    countArgument_eq rfl (count?_of_isCount hn)
  simp only [measured, hcount, hm]
  rfl

end Standard

namespace StandardRule

open Standard

/-- Two rules agree on a subject: both answer, and with the same verdict. -/
def AgreeOn [PatternEngine] (v : Value) (args : List Value) (r r' : StandardRule) : Prop :=
  ∃ verdict, r.check v args = .ok verdict ∧ r'.check v args = .ok verdict

variable {s : String} {n : Nat} {args : List Value}

/-- A rule that compares bytes with a count agrees with one that compares code points, if there are as
many of both. -/
theorem agreeOn_of_measured [PatternEngine] {rule rule' : String} {relation : Nat → Nat → Bool}
    {r r' : StandardRule} (hn : IsCount n) (hlength : Utf8.byteCount s.toList = s.toList.length)
    (hr : r.check (.string s) [.number (.int n)] =
      tested (measured rule byteLength? relation (.string s) [.number (.int n)]))
    (hr' : r'.check (.string s) [.number (.int n)] =
      tested (measured rule' codePoints? relation (.string s) [.number (.int n)])) :
    AgreeOn (.string s) [.number (.int n)] r r' := by
  refine ⟨.of (relation s.toList.length n), ?_, ?_⟩
  · have hbytes : byteLength? (.string s) = some s.toList.length := congrArg some hlength
    rw [hr, measured_eq hn hbytes]
    rfl
  · rw [hr', measured_eq hn rfl]
    rfl

/-- A text passes a rule that compares its measure with a count if it is in the relation of the rule. -/
theorem passes_iff_of_measured [PatternEngine] {rule : String} {measure : Value → Option Nat}
    {relation : Nat → Nat → Bool} {r : StandardRule} {v : Value} {m : Nat} (hn : IsCount n)
    (hm : measure v = some m)
    (hr : r.check v [.number (.int n)] = tested (measured rule measure relation v [.number (.int n)])) :
    r.Passes v [.number (.int n)] ↔ relation m n = true := by
  rw [passes_iff_of_tested hr, measured_eq hn hm, Except.ok.injEq]

/-- On ASCII texts the rules for bytes agree with those for code points, and the rules for ASCII
characters with those for all characters. A text that is no ASCII text fails the rules for ASCII characters
and has more bytes than code points, so a lower bound on bytes or an upper one on code points lets pass at
least what the same bound does on the other length. -/
theorem text_rules_agree_on_ascii [PatternEngine] (s : String) (hn : IsCount n)
    (args : List Value) :
    (ascii.Passes (.string s) args →
      AgreeOn (.string s) [.number (.int n)] minLength unicodeMinLength ∧
      AgreeOn (.string s) [.number (.int n)] maxLength unicodeMaxLength ∧
      AgreeOn (.string s) [.number (.int n)] exactLength unicodeExactLength ∧
      AgreeOn (.string s) args asciiPrintable unicodePrintable ∧
      AgreeOn (.string s) args asciiMultiLine unicodeMultiLine) ∧
    (¬ascii.Passes (.string s) args →
      asciiPrintable.check (.string s) args = .ok .fail ∧
      asciiMultiLine.check (.string s) args = .ok .fail ∧
      (∃ bytes points, byteLength? (.string s) = some bytes ∧ codePoints? (.string s) = some points ∧
        points < bytes) ∧
      (unicodeMinLength.Passes (.string s) [.number (.int n)] →
        minLength.Passes (.string s) [.number (.int n)]) ∧
      (maxLength.Passes (.string s) [.number (.int n)] →
        unicodeMaxLength.Passes (.string s) [.number (.int n)])) := by
  have hplain : ascii.check (.string s) args = plain (onText isAscii) (.string s) := rfl
  have hascii : ascii.Passes (.string s) args ↔ isAscii s.toList = true := passes_iff_of_plain hplain
  have hbytes : byteLength? (.string s) = some (Utf8.byteCount s.toList) := rfl
  have hpoints : codePoints? (.string s) = some s.toList.length := rfl
  have hprintable : asciiPrintable.check (.string s) args =
      .ok (.of (isAscii s.toList && isPrintable s.toList)) := by
    rw [← isAsciiPrintable_eq]
    rfl
  have hmultiLine : asciiMultiLine.check (.string s) args =
      .ok (.of (isAscii s.toList && isMultiLine s.toList)) := by
    rw [← isAsciiMultiLine_eq]
    rfl
  rw [hascii]
  constructor
  · intro h
    have hlength := isAscii_iff_byteCount.mp h
    rw [h, Bool.true_and] at hprintable hmultiLine
    exact ⟨agreeOn_of_measured hn hlength rfl rfl, agreeOn_of_measured hn hlength rfl rfl,
      agreeOn_of_measured hn hlength rfl rfl, ⟨_, hprintable, rfl⟩, ⟨_, hmultiLine, rfl⟩⟩
  · intro h
    have hmore : s.toList.length < Utf8.byteCount s.toList :=
      Nat.lt_of_le_of_ne (Utf8.length_le_byteCount _) fun heq => h (isAscii_iff_byteCount.mpr heq.symm)
    rw [Bool.not_eq_true] at h
    rw [h, Bool.false_and] at hprintable hmultiLine
    have hmin : minLength.Passes (.string s) [.number (.int n)] ↔
        atLeast (Utf8.byteCount s.toList) n = true := passes_iff_of_measured hn hbytes rfl
    have hunicodeMin : unicodeMinLength.Passes (.string s) [.number (.int n)] ↔
        atLeast s.toList.length n = true := passes_iff_of_measured hn hpoints rfl
    have hmax : maxLength.Passes (.string s) [.number (.int n)] ↔
        atMost (Utf8.byteCount s.toList) n = true := passes_iff_of_measured hn hbytes rfl
    have hunicodeMax : unicodeMaxLength.Passes (.string s) [.number (.int n)] ↔
        atMost s.toList.length n = true := passes_iff_of_measured hn hpoints rfl
    simp only [hmin, hunicodeMin, hmax, hunicodeMax, atLeast, atMost, decide_eq_true_iff]
    exact ⟨hprintable, hmultiLine, ⟨_, _, hbytes, hpoints, hmore⟩,
      fun hle => Nat.le_trans hle (Nat.le_of_lt hmore), Nat.le_trans (Nat.le_of_lt hmore)⟩

/-- Five bytes and code points, and six bytes of five code points with a control character that is not one
of ASCII. -/
theorem naive_text_rules :
    IsCount 5 ∧
    (ascii.Passes (.string "naive") [] ∧
      AgreeOn (.string "naive") [.number (.int 5)] exactLength unicodeExactLength) ∧
    ¬ascii.Passes (.string "na\u0085ve") [] ∧
      asciiPrintable.check (.string "na\u0085ve") [] = .ok .fail ∧
      (unicodeMinLength.Passes (.string "na\u0085ve") [.number (.int 5)] →
        minLength.Passes (.string "na\u0085ve") [.number (.int 5)]) := by
  have hfive : IsCount 5 := by simp [IsCount, Json.Number.ceiling]
  have hascii : ascii.Passes (.string "naive") [] := ⟨_, rfl, by decide⟩
  have hplain : ascii.check (.string "na\u0085ve") [] = plain (onText isAscii) (.string "na\u0085ve") := rfl
  have hnot : ¬ascii.Passes (.string "na\u0085ve") [] := by
    rw [passes_iff_of_plain hplain]
    decide
  obtain ⟨-, -, hexact, -, -⟩ := (text_rules_agree_on_ascii "naive" hfive []).1 hascii
  obtain ⟨hfail, -, -, hmin, -⟩ := (text_rules_agree_on_ascii "na\u0085ve" hfive []).2 hnot
  exact ⟨hfive, ⟨hascii, hexact⟩, hnot, hfail, hmin⟩

end StandardRule

end Rulebook
