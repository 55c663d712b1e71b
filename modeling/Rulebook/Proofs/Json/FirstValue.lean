import Mathlib.Data.List.TakeWhile
import Mathlib.Tactic.SplitIfs
import Rulebook.Proofs.Json.Locality

/-!
# The value that a text begins with

A number ends where no byte continues it, every other value with its last byte. So whatever stands behind a
value, the value is the same, and the bytes of the value alone are a text of it as well.
-/

namespace Rulebook

/-- A character is told by its own bytes. -/
theorem Utf8.beginning_append {b : UInt8} {more : List UInt8} {c : Char} {n : Nat}
    (h : beginning b more = .char c n) :
    ∃ tail after, more = tail ++ after ∧ n = tail.length + 1 ∧
      ∀ other, beginning b (tail ++ other) = .char c n := by
  unfold beginning at h
  split at h
  · cases h
  · cases h
    exact ⟨[], _, rfl, rfl, fun other => by simp [beginning, *]⟩
  · cases h
  next _ _ second more hzero hone =>
  split at h
  · cases h
  next hsecond =>
  split at h
  · next htwo =>
    cases h
    exact ⟨[second], more, rfl, rfl, fun other => by simp [beginning, htwo, hsecond]⟩
  next htwo =>
  split at h
  · cases h
  next third more =>
  split at h
  · cases h
  next hthird =>
  split at h
  · next hthree =>
    cases h
    exact ⟨[second, third], more, rfl, rfl, fun other => by
      simp [beginning, hthree, hsecond, hthird]⟩
  next hthree =>
  split at h
  · cases h
  next fourth more =>
  split at h
  · cases h
  next hfourth =>
  cases h
  exact ⟨[second, third, fourth], more, rfl, rfl, fun other => by
    simp [beginning, htwo, hthree, hsecond, hthird, hfourth]⟩

namespace Json

namespace Reader

variable {α β : Type} {k : Lookahead} {text : List UInt8} {least : Nat}

/-! ## Words and numbers -/

/-- Behind the bytes at the start that have a property there is one that does not have it. -/
theorem head_dropWhile {p : UInt8 → Bool} : ∀ b ∈ (text.dropWhile p).head?, p b = false := by
  intro b hb
  have h := List.head?_dropWhile_not p text
  rw [Option.mem_def.mp hb] at h
  exact h

/-- The bytes at the start that have a property end in front of one that does not have it. -/
theorem takeWhile_append_of_head {p : UInt8 → Bool} {other : List UInt8}
    (h : ∀ b ∈ other.head?, p b = false) :
    (text.takeWhile p ++ other).takeWhile p = text.takeWhile p := by
  have hother : other.takeWhile p = [] := by
    cases other with
    | nil => rfl
    | cons b other => exact List.takeWhile_cons_of_neg (by simp [h b rfl])
  rw [List.takeWhile_append_of_pos fun _ => List.mem_takeWhile_imp, hother, List.append_nil]

/-- What looks like the end of digits is one. -/
theorem Lookahead.Alike.not_isDigit {after other : List UInt8} (h : k.Alike after other)
    (hafter : ∀ b ∈ after.head?, isDigit b = false) : ∀ b ∈ other.head?, isDigit b = false := by
  have hnot (hother : ∀ b ∈ other.head?, continuesNumber b = false) :
      ∀ b ∈ other.head?, isDigit b = false := by
    intro b hb
    have hb := hother b hb
    simp only [continuesNumber, Bool.or_eq_false_iff] at hb
    exact hb.1.1.1
  cases k with
  | byte => exact (show after.head? = other.head? from h) ▸ hafter
  | number => exact h.elim (fun h => h ▸ hafter) hnot

namespace Local

/-- Blanks are taken up to a byte that is not one. -/
theorem blanks :
    Local .byte 0 (rest >>= fun bytes => advance (bytes.takeWhile isBlank).length) text := by
  have hlocal : Local .byte 0 (rest >>= fun bytes => advance (bytes.takeWhile isBlank).length)
      (text.takeWhile isBlank ++ text.dropWhile isBlank) := by
    refine rest_bind (Nat.zero_le _) (fun other halike => ?_) (pure ())
    rw [takeWhile_append_of_head]
    · exact (bind_pure _).symm
    · exact (show (text.dropWhile isBlank).head? = other.head? from halike) ▸ head_dropWhile
  rwa [List.takeWhile_append_dropWhile] at hlocal

theorem peekToken : Local .byte 0 peekToken text := by
  rw [Reader.peekToken, ← bind_assoc]
  exact blanks.bind fun _ _ => peek

/-- A reader that looks at the byte behind blanks and takes it. -/
theorem peekToken_bind {f : Option Char → Reader β}
    (h : ∀ after, Local k 1 (f (firstOf after)) after) : Local k 1 (Reader.peekToken >>= f) text := by
  rw [Reader.peekToken, ← bind_assoc, bind_assoc]
  exact blanks.bind_taking fun _ after => peek_bind (h after)

theorem word_cons (path : Path) (c : Char) (more : List Char) (text : List UInt8) :
    Local k 1 (word path (c :: more)) text := by
  have hmore (after : List UInt8) : Local k 0 (word path more) after := by
    cases more with
    | nil => exact .pure ()
    | cons d more => exact (word_cons path d more after).weaken
  cases text with
  | nil => exact .peek_bind (.of_nothing (.fail _ _))
  | cons b after =>
    refine .peek_bind (.skip_bind ?_)
    split
    · exact hmore after
    · exact .of_nothing (.fail _ _)

/-- A reader that sees the digits at the start and takes them. -/
theorem digits_bind {g : List UInt8 → Reader β}
    (hg : ∀ ds, GivesNothing (g ds) ∨
      least ≤ ds.length ∧ ∃ next, (g ds = advance ds.length >>= fun _ => next) ∧
        ∀ after, Local k 0 next after) :
    Local k least (rest >>= fun bytes => g (bytes.takeWhile isDigit)) text := by
  obtain hnothing | ⟨hleast, next, hnext, hlocal⟩ := hg (text.takeWhile isDigit)
  · exact rest_bind_of_nothing hnothing
  · have h : Local k least (rest >>= fun bytes => g (bytes.takeWhile isDigit))
        (text.takeWhile isDigit ++ text.dropWhile isDigit) := by
      refine rest_bind hleast (fun other halike => ?_) (hlocal _)
      rw [takeWhile_append_of_head (halike.not_isDigit head_dropWhile), hnext]
    rwa [List.takeWhile_append_dropWhile] at h

/-- A reader that reads on, whether a byte is there that it does not care for or one that does not
continue a number. -/
theorem peek_bind_of_else {f : Option Char → Reader β} {g : Reader β}
    (hg : Local .number 0 g text) (hhere : f (firstOf text) = g)
    (helse : ∀ other, (∀ b ∈ other.head?, continuesNumber b = false) → f (firstOf other) = g) :
    Local .number 0 (Reader.peek >>= f) text := by
  intro seen b c hrun
  have hrun : ExceptT.run (f (firstOf text)) ⟨seen, text⟩ = (.ok b, c) := hrun
  rw [hhere] at hrun
  obtain ⟨bytes, hleast, htext, hgives⟩ := hg seen b c hrun
  refine ⟨bytes, hleast, htext, fun other halike seen => ?_⟩
  have hthere : f (firstOf (bytes ++ other)) = g := by
    rcases halike.append bytes with hsame | hstops
    · rw [← hhere, htext, firstOf_eq_of_head hsame]
    · exact helse _ hstops
  have hgives := hgives other halike seen
  rw [← hthere] at hgives
  exact hgives

theorem decimal (path : Path) (negative : Bool) (significand : Nat) (scale : Int) :
    Local k 0 (decimal path negative significand scale) text := by
  unfold Reader.decimal
  split
  · exact .pure _
  · exact .of_nothing (.fail _ _)

theorem integer (path : Path) (negative : Bool) (significand excess : Nat) :
    Local k 0 (integer path negative significand excess) text := by
  unfold Reader.integer
  extract_lets i
  split_ifs
  · exact .pure _
  · exact .pure _
  · exact decimal _ _ _ _

/-- The digits of an exponent are taken, or there is no number. -/
theorem exponentDigits_cases (path : Path) (negative minus : Bool) (significand : Nat) (scale : Int)
    (ds : List UInt8) :
    GivesNothing (exponentDigits path negative minus significand scale ds) ∨
      1 ≤ ds.length ∧ ∃ next,
        (exponentDigits path negative minus significand scale ds = advance ds.length >>= fun _ => next) ∧
        ∀ after, Local k 0 next after := by
  cases ds with
  | nil =>
    refine .inl (.next fun token => ?_)
    split
    · exact .fail _ _
    · exact .next fun _ => .fail _ _
  | cons d ds =>
    have htakes : 1 ≤ (d :: ds).length := by simp
    rw [exponentDigits.eq_2 _ _ _ _ _ _ (by simp)]
    cases exponentOf 0 0 (d :: ds) with
    | error taken =>
      by_cases hlarge : significand ≠ 0 ∧ (!minus) = true
      · simp only [if_pos hlarge]
        exact .inl (.next fun _ => .fail _ _)
      · simp only [if_neg hlarge]
        exact .inr ⟨htakes, _, rfl, fun _ => .pure _⟩
    | ok e => exact .inr ⟨htakes, _, rfl, fun _ => decimal _ _ _ _⟩

theorem exponent (path : Path) (negative : Bool) (significand : Nat) (scale : Int) :
    Local k 1 (exponent path negative significand scale) text := by
  have hdigits (minus : Bool) (text : List UInt8) : Local k 1 (rest >>= fun bytes =>
      exponentDigits path negative minus significand scale (bytes.takeWhile isDigit)) text :=
    digits_bind (exponentDigits_cases _ _ _ _ _)
  -- the byte of a sign is looked at twice, and taken if it is one
  refine peek_bind (peek_bind ?_)
  simp only
  split
  · exact Local.skip.bind_taking fun _ after => hdigits _ after
  · exact hdigits _ _

/-- A point and the letters of exponents continue a number. -/
theorem firstOf_of_stops {other : List UInt8} (h : ∀ b ∈ other.head?, continuesNumber b = false) :
    firstOf other ≠ some '.' ∧ firstOf other ≠ some 'e' ∧ firstOf other ≠ some 'E' := by
  cases other with
  | nil => simp [firstOf, Cursor.start, Cursor.peek?]
  | cons b other =>
    have hbytes : ∀ n < 256, continuesNumber (.ofNat n) = false →
        Char.ofNat n ≠ '.' ∧ Char.ofNat n ≠ 'e' ∧ Char.ofNat n ≠ 'E' := by decide +kernel
    have hb := hbytes b.toNat b.toNat_lt (by rw [UInt8.ofNat_toNat]; exact h b rfl)
    simpa [firstOf, Cursor.start, Cursor.peek?] using hb

/-- The byte at the start is taken if it is known. -/
theorem peek_skip_bind {f : Option Char → Reader β} {next : Unit → Reader β} {c : Char}
    (hfirst : firstOf text = some c) (hf : f (some c) = Reader.skip >>= next)
    (hnext : ∀ after, Local k 0 (next ()) after) : Local k 1 (Reader.peek >>= f) text := by
  cases text with
  | nil => cases hfirst
  | cons b after =>
    refine peek_bind ?_
    rw [hfirst, hf]
    exact skip_bind (hnext after)

theorem digits : Local k 0 digits text :=
  digits_bind (g := fun ds => Reader.advance ds.length >>= fun _ => Pure.pure ds)
    fun _ => .inr ⟨Nat.zero_le _, _, rfl, fun _ => .pure _⟩

/-- A reader that needs digits takes one. -/
theorem digits_then {f : List UInt8 → Reader β} (hnil : GivesNothing (f []))
    (hcons : ∀ d ds after, Local k 0 (f (d :: ds)) after) :
    Local k 1 (Reader.digits >>= f) text := by
  rw [Reader.digits]
  simp only [bind_assoc, pure_bind]
  refine digits_bind (g := fun ds => Reader.advance ds.length >>= fun _ => f ds) fun ds => ?_
  cases ds with
  | nil => exact .inl (.next fun _ => hnil)
  | cons d ds => exact .inr ⟨by simp, _, rfl, hcons d ds⟩

theorem numberTail (path : Path) (negative : Bool) (significand excess : Nat) :
    Local .number 0 (numberTail path negative significand excess) text := by
  have hexponent (significand : Nat) (scale : Int) (after : List UInt8) :
      Local .number 0 (Reader.exponent path negative significand scale) after :=
    (exponent _ _ _ _).weaken
  by_cases hpoint : firstOf text = some '.'
  · refine (peek_skip_bind hpoint rfl fun after => ?_).weaken
    refine digits.bind fun fraction after => ?_
    split
    · exact .of_nothing (.next fun _ => .failAtNext _ _)
    by_cases he : firstOf after = some 'e'
    · exact (peek_skip_bind he rfl fun after => hexponent _ _ after).weaken
    by_cases hE : firstOf after = some 'E'
    · exact (peek_skip_bind hE rfl fun after => hexponent _ _ after).weaken
    · refine peek_bind_of_else (decimal path negative (appendDigits significand fraction).1
        (excess + (appendDigits significand fraction).2.length - fraction.length)) ?_
        fun other hstops => ?_
      · split <;> simp_all
      · obtain ⟨-, he, hE⟩ := firstOf_of_stops hstops
        split <;> simp_all
  by_cases he : firstOf text = some 'e'
  · exact (peek_skip_bind he rfl fun after => hexponent _ _ after).weaken
  by_cases hE : firstOf text = some 'E'
  · exact (peek_skip_bind hE rfl fun after => hexponent _ _ after).weaken
  · refine peek_bind_of_else (integer path negative significand excess) ?_ fun other hstops => ?_
    · split <;> simp_all
    · obtain ⟨hpoint, he, hE⟩ := firstOf_of_stops hstops
      split <;> simp_all

theorem number (path : Path) (negative : Bool) :
    Local .number 1 (number path negative) text := by
  cases text with
  | nil => exact .peek_bind (.of_nothing (.fail _ _))
  | cons b more =>
    refine .peek_bind ?_
    split
    · exact .of_nothing (.fail _ _)
    · refine .skip_bind (digits_bind (g := fun ds =>
        if ds.isEmpty then Reader.numberTail path negative 0 0 else failAtNext path .invalidNumber)
        fun ds => ?_)
      cases ds with
      | nil => exact .inr ⟨Nat.le_refl _, _, rfl, fun _ => numberTail _ _ _ _⟩
      | cons d ds => exact .inl (.failAtNext _ _)
    · exact digits_then (.next fun _ => .fail _ _) fun _ _ _ => numberTail _ _ _ _

end Local

/-! ## Strings -/

namespace Local

theorem hexUnit (path : Path) : Local k 1 (hexUnit path) text := by
  match text with
  | a :: b :: c :: d :: after =>
    change Local k 1 _ ([a, b, c, d] ++ after)
    refine rest_bind (by simp) (fun other _ => rfl) ?_
    split
    · exact .pure _
    · exact .of_nothing (.fail _ _)
  | [] | [_] | [_, _] | [_, _, _] => exact rest_bind_of_nothing (.next fun _ => .fail _ _)

theorem pairByte (path : Path) (c : Char) : Local k 1 (pairByte path c) text := by
  cases text with
  | nil => exact peek_bind (.of_nothing (.fail _ _))
  | cons b after =>
    refine peek_bind (skip_bind ?_)
    split
    · exact .pure ()
    · exact .of_nothing (.fail _ _)

theorem hexEscape (path : Path) : Local k 1 (hexEscape path) text := by
  refine (hexUnit path).bind fun first after => ?_
  split_ifs
  · exact .of_nothing (.fail _ _)
  · exact .pure _
  · refine ((pairByte _ _).bind fun _ _ => (pairByte _ _).weaken.bind fun _ _ =>
      (hexUnit path).weaken.bind fun second _ => ?_).weaken
    split
    · exact .of_nothing (.fail _ _)
    · exact .pure _

theorem escape (path : Path) : Local k 1 (escape path) text := by
  cases text with
  | nil => exact peek_bind (.of_nothing (.fail _ _))
  | cons b after =>
    refine peek_bind (skip_bind ?_)
    split
    all_goals first
      | exact .pure _
      | exact (hexEscape path).weaken
      | exact .of_nothing (.fail _ _)

end Local

/-- A string with a byte that begins no character is not read. -/
theorem stringTail_bad (path : Path) (fuel : Nat) (position : Position) (chars : List Char) :
    GivesNothing (stringTail path fuel (some position) chars) := by
  induction fuel generalizing chars with
  | zero => exact .fail _ _
  | succ fuel ih =>
    refine .next fun bytes => ?_
    split
    · exact .fail _ _
    split_ifs
    · exact .next fun _ => .throw _
    · exact .next fun _ => .next fun _ => ih _
    · exact .next fun _ => .fail _ _
    split
    · exact .next fun _ => ih _
    · exact .next fun _ => .next fun _ => ih _

theorem Local.stringTail (path : Path) (fuel : Nat) (chars : List Char) :
    Local k 1 (stringTail path fuel none chars) text := by
  induction fuel generalizing chars text with
  | zero => exact .of_nothing (.fail _ _)
  | succ fuel ih =>
    cases text with
    | nil => exact rest_bind_of_nothing (.fail _ _)
    | cons b more =>
      -- the first byte tells what is taken, and with which reader it goes on
      change Local k 1 _ ([b] ++ more)
      by_cases hquote : b = 34
      · exact rest_bind (Nat.le_refl 1) (fun other _ => if_pos hquote) (.pure _)
      by_cases hescape : b = 92
      · refine rest_bind (Nat.le_refl 1) (fun other _ => (if_neg hquote).trans (if_pos hescape)) ?_
        exact (Local.escape path).weaken.bind fun _ _ => (ih _).weaken
      by_cases hcontrol : b < 32
      · refine rest_bind_of_nothing ?_
        simp only [List.singleton_append, if_neg hquote, if_neg hescape, if_pos hcontrol]
        exact .next fun _ => .fail _ _
      match hchar : Utf8.beginning b more with
      | .char c n =>
        obtain ⟨tail, after, rfl, rfl, htail⟩ := Utf8.beginning_append hchar
        change Local k 1 _ ((b :: tail) ++ after)
        refine rest_bind (by simp) (fun other _ => ?_) (ih (c :: chars)).weaken
        simp only [List.cons_append, if_neg hquote, if_neg hescape, if_neg hcontrol, htail,
          List.length_cons]
      -- a byte that begins no character is reported when the string ends
      | .invalid _ =>
        refine rest_bind_of_nothing ?_
        simp only [List.singleton_append, if_neg hquote, if_neg hescape, if_neg hcontrol, hchar]
        exact .next fun _ => .next fun _ => stringTail_bad _ _ _ _
      | .incomplete =>
        refine rest_bind_of_nothing ?_
        simp only [List.singleton_append, if_neg hquote, if_neg hescape, if_neg hcontrol, hchar]
        exact .next fun _ => .next fun _ => stringTail_bad _ _ _ _

/-- More fuel than there are bytes does not matter. -/
theorem stringTail_extends (path : Path) (chars : List Char) (fuel fuel' : Nat) (text : List UInt8)
    (h : text.length < fuel') :
    Extends (stringTail path fuel' none chars) (stringTail path fuel none chars) text := by
  induction fuel generalizing fuel' chars text with
  | zero => exact .of_nothing (.fail _ _)
  | succ fuel ih =>
    obtain ⟨fuel', rfl⟩ := Nat.exists_eq_succ_of_ne_zero (Nat.ne_zero_of_lt h)
    cases text with
    | nil => exact .refl
    | cons b more =>
      rw [List.length_cons] at h
      refine Extends.rest_bind ?_
      simp only
      split
      · exact .refl
      split
      · refine .bind (.skip_cons (k := .byte)) fun _ after hafter =>
          .bind (Local.escape (k := .byte) path) fun c behind hbehind => ih _ _ _ ?_
        rw [List.length_cons] at hafter
        omega
      split
      · exact .refl
      split
      · next c n hchar =>
        obtain ⟨tail, after, rfl, rfl, -⟩ := Utf8.beginning_append hchar
        refine Extends.advance_bind (b :: tail) (ih _ _ _ ?_)
        rw [List.length_append] at h
        omega
      · exact .of_nothing (.next fun _ => .next fun _ => stringTail_bad _ _ _ _)

theorem Local.string (path : Path) : Local k 1 (string path) text :=
  Local.skip.bind_taking fun _ _ =>
    .fuel_bind (fun fuel => stringTail path fuel []) (stringTail_extends path [])

/-! ## Arrays and objects -/

namespace Local

theorem nextItem (path : Path) (first : Bool) : Local .byte 0 (nextItem path first) text := by
  refine peekToken.bind fun token after => ?_
  split
  · exact .of_nothing (.failAtNext _ _)
  · exact .pure _
  split_ifs
  · exact .pure _
  · refine skip.bind fun _ _ => peekToken.bind fun token after => ?_
    split
    · exact .of_nothing (.failAtNext _ _)
    · exact .of_nothing (.failAtNext _ _)
    · exact .pure _
  · exact .of_nothing (.failAtNext _ _)

theorem nextKey (path : Path) (first : Bool) : Local .byte 0 (nextKey path first) text := by
  refine peekToken.bind fun token after => ?_
  split
  · exact .of_nothing (.failAtNext _ _)
  · exact .pure _
  split_ifs
  · exact (string _).weaken.map
  · exact .of_nothing (.failAtNext _ _)
  · refine skip.bind fun _ _ => peekToken.bind fun token after => ?_
    split
    · exact .of_nothing (.failAtNext _ _)
    · exact (string _).weaken.map
    · exact .of_nothing (.failAtNext _ _)
    · exact .of_nothing (.failAtNext _ _)
  · exact .of_nothing (.failAtNext _ _)

theorem colon (path : Path) : Local .byte 0 (colon path) text := by
  refine peekToken.bind fun token after => ?_
  split
  · exact .of_nothing (.failAtNext _ _)
  · exact skip
  · exact .of_nothing (.failAtNext _ _)

theorem closeArray (path : Path) : Local k 1 (closeArray path) text := by
  refine peekToken_bind fun after => ?_
  cases after with
  | nil => exact .of_nothing (.failAtNext _ _)
  | cons b after =>
    split
    · exact .of_nothing (.failAtNext _ _)
    · exact skip_cons
    · refine .of_nothing (.next fun _ => .next fun token => ?_)
      split <;> exact .failAtNext _ _
    · exact .of_nothing (.failAtNext _ _)

theorem closeObject (path : Path) : Local k 1 (closeObject path) text := by
  refine peekToken_bind fun after => ?_
  cases after with
  | nil => exact .of_nothing (.failAtNext _ _)
  | cons b after =>
    split
    · exact .of_nothing (.failAtNext _ _)
    · exact skip_cons
    · exact .of_nothing (.failAtNext _ _)
    · exact .of_nothing (.failAtNext _ _)

end Local

section Inner

variable {item : Path → Reader α} (hitem : ∀ path text, Local .number 1 (item path) text)
  {value : Path → Reader Value} (hvalue : ∀ path text, Local .number 1 (value path) text)

include hitem in
theorem Local.itemsFrom (path : Path) (fuel index : Nat) :
    Local .byte 0 (itemsFrom path item fuel index) text := by
  induction fuel generalizing index text with
  | zero => exact .of_nothing (.fail _ _)
  | succ fuel ih =>
    refine (nextItem _ _).bind fun more after => ?_
    split
    · exact (hitem _ _).toByte.weaken.bind fun v after => (ih _).map
    · exact .pure _

include hitem in
/-- Every item has a byte. -/
theorem itemsFrom_extends (path : Path) (index fuel fuel' : Nat) (text : List UInt8)
    (h : text.length < fuel') :
    Extends (itemsFrom path item fuel' index) (itemsFrom path item fuel index) text := by
  induction fuel generalizing fuel' index text with
  | zero => exact .of_nothing (.fail _ _)
  | succ fuel ih =>
    obtain ⟨fuel', rfl⟩ := Nat.exists_eq_succ_of_ne_zero (Nat.ne_zero_of_lt h)
    refine .bind (Local.nextItem _ _) fun more after hafter => ?_
    cases more with
    | false => exact .refl
    | true => exact .bind (hitem _ _) fun v behind hbehind => (ih _ _ _ (by omega)).map

include hitem in
theorem Local.array (path : Path) : Local k 1 (array path item) text := by
  refine Local.skip.bind_taking fun _ _ => .fuel_bind
    (r := fun fuel => Reader.itemsFrom path item fuel 0 >>= fun items =>
      Reader.closeArray path >>= fun _ => Pure.pure items)
    (fun fuel => ?_) fun fuel fuel' text h => (itemsFrom_extends hitem _ _ _ _ _ h).bind_same
  exact (itemsFrom hitem _ _ _).bind_taking fun items after =>
    (closeArray path).bind fun _ _ => .pure items

include hvalue in
theorem Local.membersFrom (path : Path) (fuel : Nat) (first : Bool) (members : Members) :
    Local .byte 0 (membersFrom path value fuel first members) text := by
  induction fuel generalizing first members text with
  | zero => exact .of_nothing (.fail _ _)
  | succ fuel ih =>
    refine (nextKey _ _).bind fun key after => ?_
    cases key with
    | none => exact .pure _
    | some key =>
      exact (colon _).bind fun _ _ => (hvalue _ _).toByte.weaken.bind fun v after => ih _ _

include hvalue in
/-- Every member has a byte. -/
theorem membersFrom_extends (path : Path) (first : Bool) (members : Members) (fuel fuel' : Nat)
    (text : List UInt8) (h : text.length < fuel') :
    Extends (membersFrom path value fuel' first members) (membersFrom path value fuel first members)
      text := by
  induction fuel generalizing fuel' first members text with
  | zero => exact .of_nothing (.fail _ _)
  | succ fuel ih =>
    obtain ⟨fuel', rfl⟩ := Nat.exists_eq_succ_of_ne_zero (Nat.ne_zero_of_lt h)
    refine .bind (Local.nextKey _ _) fun key after hafter => ?_
    cases key with
    | none => exact .refl
    | some key =>
      exact .bind (Local.colon _) fun _ between hbetween =>
        .bind (hvalue _ _) fun v behind hbehind => ih _ _ _ _ (by omega)

include hvalue in
theorem Local.object (path : Path) : Local k 1 (object path value) text := by
  refine Local.skip.bind_taking fun _ _ => .fuel_bind
    (r := fun fuel => Reader.membersFrom path value fuel true [] >>= fun members =>
      Reader.closeObject path >>= fun _ => Pure.pure members)
    (fun fuel => ?_) fun fuel fuel' text h => (membersFrom_extends hvalue _ _ _ _ _ _ h).bind_same
  exact (membersFrom hvalue _ _ _ _).bind_taking fun members after =>
    (closeObject path).bind fun _ _ => .pure members

end Inner

/-! ## Values -/

theorem Local.valueWith {inner : Option (Path → Reader Value)}
    (hinner : ∀ read, inner = some read → ∀ path text, Local .number 1 (read path) text)
    (path : Path) : Local .number 1 (valueWith inner path) text := by
  refine peekToken.bind_taking fun token after => ?_
  split
  · exact .of_nothing (.failAtNext _ _)
  · exact (word_cons _ _ _ _).bind fun _ _ => .pure _
  · exact (word_cons _ _ _ _).bind fun _ _ => .pure _
  · exact (word_cons _ _ _ _).bind fun _ _ => .pure _
  · exact (string _).map
  · exact skip.bind_taking fun _ _ => (number _ _).map
  · split
    · exact (array (hinner _ rfl) _).map
    · exact .of_nothing (.failAtNext _ _)
  · split
    · exact (object (hinner _ rfl) _).map
    · exact .of_nothing (.failAtNext _ _)
  · split
    · exact (number _ _).map
    · exact .of_nothing (.failAtNext _ _)

/-- A value is local: it ends with its last byte, but a number with the last byte that continues it. -/
theorem Local.value (levels : Nat) (path : Path) (text : List UInt8) :
    Local .number 1 (value levels path) text := by
  induction levels generalizing path text with
  | zero => exact valueWith (by simp) path
  | succ levels ih =>
    refine valueWith (fun read hread => ?_) path
    obtain rfl := Option.some.inj hread
    exact ih

end Reader

/-! ## Texts -/

open Reader (Lookahead isBlank nestingLimit)

/-- A text begins with a value, and these bytes are left behind it. -/
def Value.Begins (text : List UInt8) (v : Value) (after : List UInt8) : Prop :=
  ∃ behind, ExceptT.run (Reader.value nestingLimit []) (Cursor.start text) = (.ok v, ⟨behind, after⟩)

/-- A text is the text of one value, with nothing but blanks behind it. -/
def Value.IsTextOf (v : Value) (text : List UInt8) : Prop :=
  ∃ after, Begins text v after ∧ ∀ b ∈ after, isBlank b

variable {text after : List UInt8} {v : Value}

/-- What is read of a text is the value that it begins with. -/
theorem Value.ofBytes_eq_ok_iff : ofBytes text = .ok v ↔ ∃ after, Begins text v after := by
  refine ⟨fun h => ?_, fun ⟨after, behind, hrun⟩ => congrArg Prod.fst hrun⟩
  refine ⟨_, _, Prod.ext h rfl⟩

/-- A text begins with one value at most. -/
theorem Value.Begins.unique {w : Value} {other : List UInt8} (h : Begins text v after)
    (hother : Begins text w other) : v = w ∧ after = other := by
  obtain ⟨behind, hrun⟩ := h
  obtain ⟨behind', hrun'⟩ := hother
  rw [hrun] at hrun'
  cases hrun'
  exact ⟨rfl, rfl⟩

/-- A text that begins with a value is the text of the value and more. Whatever stands there instead, the
value is the same, if it does not continue a number. -/
theorem Value.Begins.split (h : Begins text v after) :
    ∃ own, text = own ++ after ∧ v.IsTextOf own ∧
      ∀ other, Lookahead.number.Alike after other → Begins (own ++ other) v other := by
  obtain ⟨behind, hrun⟩ := h
  obtain ⟨own, -, htext, hgives⟩ := Reader.Local.value nestingLimit [] text [] v _ hrun
  have hbegins (other : List UInt8) (halike : Lookahead.number.Alike after other) :
      Begins (own ++ other) v other := hgives other halike []
  refine ⟨own, htext, ⟨[], ?_, by simp⟩, hbegins⟩
  have hown := hbegins [] (.inr (by simp))
  rwa [List.append_nil] at hown

/-- A text is that of one value exactly if it begins with it and is blank behind it. -/
theorem Value.Begins.exists_isTextOf_iff (h : Begins text v after) :
    (∃ w : Value, w.IsTextOf text) ↔ ∀ b ∈ after, isBlank b := by
  refine ⟨fun ⟨w, other, hbegins, hblank⟩ => ?_, fun hblank => ⟨v, after, h, hblank⟩⟩
  obtain ⟨-, rfl⟩ := h.unique hbegins
  exact hblank

end Json

end Rulebook
