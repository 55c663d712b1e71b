import Mathlib.Data.List.Basic
import Rulebook.Proofs.Standard.Guards
import Rulebook.Proofs.Text.Numerals
import Rulebook.Proofs.Text.Widths

/-!
# Texts of dates and times

The readers of local dates and times are lenient: a field may have blanks in front of it and one
digit instead of two, and a year may have fewer digits than four, or a sign and any number of them.
Each rule accepts exactly what can be spelt so; the one for dates asks for ten bytes besides, which
keeps out most short fields, but not those that blanks or a sign make up for.
-/

namespace Rulebook

open Json (Value)
open Text (isDigit isDigit_iff digitsValue readChar)
open Unicode (isBlank)

namespace Standard.Calendar

/-! ## Spellings -/

/-- Blanks, or nothing. -/
def IsSpace (s : List Char) : Prop := ∀ c ∈ s, isBlank c = true

/-- A number of one digit or more, at most so many. -/
structure IsNumber (most : Nat) (s : List Char) (n : Nat) : Prop where
  nonempty : s ≠ []
  length_le : s.length ≤ most
  digits : ∀ c ∈ s, isDigit c = true
  value : digitsValue 10 s = n

/-- A field of a date or a time: one or two digits, behind blanks. -/
inductive IsField : List Char → Nat → Prop
  | spelt {space digits : List Char} {n : Nat} (hspace : IsSpace space)
      (hdigits : IsNumber 2 digits n) : IsField (space ++ digits) n

/-- A year: up to four digits, or a sign and any number of digits, behind blanks. -/
inductive IsYearField : List Char → Int → Prop
  | plain {space digits : List Char} {n : Nat} (hspace : IsSpace space)
      (hdigits : IsNumber 4 digits n) : IsYearField (space ++ digits) n
  | negative {space digits : List Char} {n : Nat} (hspace : IsSpace space)
      (hdigits : IsNumber digits.length digits n) : IsYearField (space ++ '-' :: digits) (-n)
  | positive {space digits : List Char} {n : Nat} (hspace : IsSpace space)
      (hdigits : IsNumber digits.length digits n) : IsYearField (space ++ '+' :: digits) n

/-- Nothing, or a point and digits. -/
inductive IsFraction : List Char → Prop
  | none : IsFraction []
  | digits {digits : List Char} (nonempty : digits ≠ [])
      (hdigits : ∀ c ∈ digits, isDigit c = true) : IsFraction ('.' :: digits)

/-- A date: fields of a year, a month and a day that there is. -/
inductive SpellsDate : List Char → Prop
  | fields {y m d : List Char} {year : Int} {month day : Nat} (hy : IsYearField y year)
      (hm : IsField m month) (hd : IsField d day) (hdate : isDate year month day = true) :
      SpellsDate (y ++ '-' :: (m ++ '-' :: d))

/-- A time of day: fields of hours and minutes, or those of hours, minutes and seconds and a
fraction. -/
inductive SpellsTime : List Char → Prop
  | short {h m : List Char} {hour minute : Nat} (hh : IsField h hour) (hm : IsField m minute)
      (htime : isTime hour minute 0 = true) : SpellsTime (h ++ ':' :: m)
  | full {h m s fraction : List Char} {hour minute second : Nat} (hh : IsField h hour)
      (hm : IsField m minute) (hs : IsField s second) (hfraction : IsFraction fraction)
      (htime : isTime hour minute second = true) :
      SpellsTime (h ++ ':' :: (m ++ ':' :: (s ++ fraction)))

/-! ## Numbers -/

variable {c : Char} {s rest digits : List Char} {n most : Nat}

/-- A digit is no blank. -/
theorem isBlank_of_isDigit (h : isDigit c = true) : isBlank c = false := by
  have hrange := isDigit_iff.mp h
  simp [isBlank, Unicode.blankRanges]
  omega

/-- A character is taken if it comes first. -/
theorem readChar_eq_some_iff : readChar c s = some rest ↔ s = c :: rest := by
  cases s with
  | nil => simp [readChar]
  | cons d s =>
    by_cases h : c = d
    · simp [readChar, h]
    · simp [readChar, h, Ne.symm h]

/-- The digits at the start of a text, and no more than so many. -/
theorem leadingDigits_eq (most : Nat) (s : List Char) :
    leadingDigits most s = (s.takeWhile isDigit).take most :=
  List.take_takeWhile.symm

/-- Digits in front of something else are all digits at the start. -/
theorem leadingDigits_append (hdigits : ∀ c ∈ digits, isDigit c = true)
    (hrest : rest.takeWhile isDigit = []) (hlength : digits.length ≤ most) :
    leadingDigits most (digits ++ rest) = digits := by
  rw [leadingDigits_eq, List.takeWhile_append_of_pos hdigits, hrest, List.append_nil,
    List.take_of_length_le hlength]

/-- What is read as a number is one, in front of the rest. -/
theorem exists_of_readNumber (h : readNumber most s = some (n, rest)) :
    ∃ digits, IsNumber most digits n ∧ s = digits ++ rest := by
  unfold readNumber at h
  extract_lets digits at h
  split at h
  · cases h
  · next hnonempty =>
    obtain ⟨rfl, rfl⟩ := Prod.mk.inj (Option.some.inj h)
    have htaken : digits = (s.takeWhile isDigit).take most := leadingDigits_eq most s
    refine ⟨digits, ⟨by simpa using hnonempty, ?_, ?_, rfl⟩, ?_⟩
    · rw [htaken]
      exact List.length_take_le _ _
    · intro c hc
      rw [htaken] at hc
      exact List.all_eq_true.mp List.all_takeWhile c (List.mem_of_mem_take hc)
    · have hprefix : digits <+: s := by
        rw [htaken]
        exact (List.take_prefix _ _).trans (List.takeWhile_prefix _)
      exact (List.prefix_iff_eq_append.mp hprefix).symm

/-- A number is read if no digit follows. -/
theorem IsNumber.read (h : IsNumber most digits n) (hrest : rest.takeWhile isDigit = []) :
    readNumber most (digits ++ rest) = some (n, rest) := by
  have htaken := leadingDigits_append h.digits hrest h.length_le
  simp [readNumber, htaken, h.nonempty, h.value]

/-! ## Fields -/

/-- Blanks in front of a digit or a sign are passed over. -/
theorem dropWhile_space {space : List Char} (hspace : IsSpace space)
    (hs : s.dropWhile isBlank = s) : (space ++ s).dropWhile isBlank = s := by
  rw [List.dropWhile_append_of_pos hspace, hs]

/-- There are no blanks in front of a number. -/
theorem IsNumber.dropWhile_blank (h : IsNumber most digits n) :
    (digits ++ rest).dropWhile isBlank = digits ++ rest := by
  cases digits with
  | nil => exact absurd rfl h.nonempty
  | cons d ds =>
    have hd : isBlank d = false := isBlank_of_isDigit (h.digits d List.mem_cons_self)
    simp [hd]

/-- A text is the blanks at its start and what is behind them. -/
theorem exists_space (s : List Char) : ∃ space, IsSpace space ∧ s = space ++ s.dropWhile isBlank :=
  ⟨s.takeWhile isBlank, List.all_eq_true.mp List.all_takeWhile,
    List.takeWhile_append_dropWhile.symm⟩

/-- What is read as a field is one, in front of the rest. -/
theorem exists_of_readField (h : readField s = some (n, rest)) :
    ∃ field, IsField field n ∧ s = field ++ rest := by
  obtain ⟨space, hspace, hs⟩ := exists_space s
  obtain ⟨digits, hdigits, hdrop⟩ := exists_of_readNumber h
  refine ⟨space ++ digits, .spelt hspace hdigits, ?_⟩
  rw [hs, hdrop, List.append_assoc]

/-- A field is read if no digit follows. -/
theorem IsField.read {field : List Char} (h : IsField field n)
    (hrest : rest.takeWhile isDigit = []) : readField (field ++ rest) = some (n, rest) := by
  cases h with
  | spelt hspace hdigits =>
    rw [readField, List.append_assoc, dropWhile_space hspace hdigits.dropWhile_blank,
      hdigits.read hrest]

/-- A number whose value is changed is a number, in front of the rest. -/
theorem exists_of_map_readNumber {f : Nat → Int} {year : Int}
    (h : ((readNumber most s).map fun read => (f read.1, read.2)) = some (year, rest)) :
    ∃ digits n, IsNumber most digits n ∧ f n = year ∧ s = digits ++ rest := by
  obtain ⟨⟨n, rest'⟩, hread, heq⟩ := Option.map_eq_some_iff.mp h
  obtain ⟨hf, rfl⟩ := Prod.mk.inj heq
  obtain ⟨digits, hdigits, hs⟩ := exists_of_readNumber hread
  exact ⟨digits, n, hdigits, hf, hs⟩

/-- What is read as a year is one, in front of the rest. -/
theorem exists_of_readYear {year : Int} (h : readYear s = some (year, rest)) :
    ∃ field, IsYearField field year ∧ s = field ++ rest := by
  obtain ⟨space, hspace, hs⟩ := exists_space s
  rw [hs]
  unfold readYear at h
  split at h
  · next unsigned hsign =>
    obtain ⟨digits, n, hdigits, rfl, rfl⟩ :=
      exists_of_map_readNumber (f := fun n => -(n : Int)) h
    refine ⟨_, .negative hspace { hdigits with length_le := Nat.le_refl _ }, ?_⟩
    rw [hsign, List.append_assoc, List.cons_append]
  · next unsigned hsign =>
    obtain ⟨digits, n, hdigits, rfl, rfl⟩ :=
      exists_of_map_readNumber (f := fun n => (n : Int)) h
    refine ⟨_, .positive hspace { hdigits with length_le := Nat.le_refl _ }, ?_⟩
    rw [hsign, List.append_assoc, List.cons_append]
  · obtain ⟨digits, n, hdigits, rfl, hdrop⟩ :=
      exists_of_map_readNumber (f := fun n => (n : Int)) h
    refine ⟨_, .plain hspace hdigits, ?_⟩
    rw [hdrop, List.append_assoc]

/-- A year is read if no digit follows. -/
theorem IsYearField.read {field : List Char} {year : Int} (h : IsYearField field year)
    (hrest : rest.takeWhile isDigit = []) : readYear (field ++ rest) = some (year, rest) := by
  unfold readYear
  cases h with
  | @plain space digits n hspace hdigits =>
    have hunsigned {c : Char} {t : List Char} (heq : digits ++ rest = c :: t) :
        isDigit c = true := by
      obtain ⟨hnil, -⟩ | ⟨digits', hcons, -⟩ := List.append_eq_cons_iff.mp heq
      · exact absurd hnil hdigits.nonempty
      · exact hdigits.digits c (hcons ▸ List.mem_cons_self)
    rw [List.append_assoc, dropWhile_space hspace hdigits.dropWhile_blank]
    -- neither sign is taken off: the text begins with a digit
    split
    · next heq => exact absurd (hunsigned heq) (by decide)
    · next heq => exact absurd (hunsigned heq) (by decide)
    · simp [hdigits.read hrest]
  -- behind a sign the reader allows as many digits as there are characters left
  | @negative space digits n hspace hdigits =>
    have hmore : IsNumber (digits ++ rest).length digits n :=
      { hdigits with length_le := by simp }
    rw [List.append_assoc, List.cons_append, dropWhile_space hspace rfl]
    simp only [hmore.read hrest, Option.map_some]
  | @positive space digits n hspace hdigits =>
    have hmore : IsNumber (digits ++ rest).length digits n :=
      { hdigits with length_le := by simp }
    rw [List.append_assoc, List.cons_append, dropWhile_space hspace rfl]
    simp only [hmore.read hrest, Option.map_some]

/-! ## Dates and times -/

/-- What is read as a date spells one, in front of the rest. -/
theorem exists_of_readDate (h : readDate s = some rest) :
    ∃ date, SpellsDate date ∧ s = date ++ rest := by
  simp only [readDate, Option.bind_eq_bind, Option.bind_eq_some_iff, readChar_eq_some_iff] at h
  obtain ⟨⟨year, s₁⟩, hyear, s₂, hs₁, ⟨month, s₃⟩, hmonth, s₄, hs₃, ⟨day, s₅⟩, hday, h⟩ := h
  split at h
  · next hdate =>
    obtain rfl := Option.some.inj h
    obtain ⟨y, hy, rfl⟩ := exists_of_readYear hyear
    obtain ⟨m, hm, rfl⟩ := exists_of_readField hmonth
    obtain ⟨d, hd, rfl⟩ := exists_of_readField hday
    refine ⟨_, .fields hy hm hd hdate, ?_⟩
    simp only at hs₁ hs₃
    simp [hs₁, hs₃]
  · cases h

/-- A date is read if no digit follows. -/
theorem SpellsDate.read {date : List Char} (h : SpellsDate date)
    (hrest : rest.takeWhile isDigit = []) : readDate (date ++ rest) = some rest := by
  cases h with
  | fields hy hm hd hdate =>
    have hdash (t : List Char) : ('-' :: t).takeWhile isDigit = [] := rfl
    simp [readDate, readChar, hy.read (hdash _), hm.read (hdash _), hd.read hrest, hdate]

/-- A fraction is read up to the end of a text if nothing follows it. -/
theorem readFraction_eq_nil_iff : readFraction s = some [] ↔ IsFraction s := by
  constructor
  · intro h
    unfold readFraction at h
    split at h
    · next digits =>
      extract_lets taken at h
      split at h
      · cases h
      · next hnonempty =>
        have hlength : digits.length ≤ taken.length :=
          List.drop_eq_nil_iff.mp (Option.some.inj h)
        have htaken : taken = digits :=
          (List.takeWhile_prefix isDigit).eq_of_length_le hlength
        refine .digits ?_ ?_
        · rintro rfl
          exact hnonempty rfl
        · rw [← htaken]
          exact List.all_eq_true.mp List.all_takeWhile
    · obtain rfl := Option.some.inj h
      exact .none
  · intro h
    cases h with
    | none => rfl
    | @digits digits hnonempty hdigits =>
      have htaken : digits.takeWhile isDigit = digits := by
        have hnil : (digits ++ []).takeWhile isDigit = digits ++ [].takeWhile isDigit :=
          List.takeWhile_append_of_pos hdigits
        simpa using hnil
      simp [readFraction, htaken, hnonempty]

/-- A fraction does not begin with a digit. -/
theorem IsFraction.takeWhile_digits (h : IsFraction s) : s.takeWhile isDigit = [] := by
  cases h <;> rfl

/-- What is read as a time with seconds spells one. -/
theorem spellsTime_of_readFullTime (h : readFullTime s = some []) : SpellsTime s := by
  simp only [readFullTime, Option.bind_eq_bind, Option.bind_eq_some_iff, readChar_eq_some_iff] at h
  obtain ⟨⟨hour, s₁⟩, hhour, s₂, hs₁, ⟨minute, s₃⟩, hminute, s₄, hs₃, ⟨second, s₅⟩, hsecond, s₆,
    hs₅, h⟩ := h
  split at h
  · next htime =>
    obtain rfl := Option.some.inj h
    obtain ⟨h, hh, rfl⟩ := exists_of_readField hhour
    obtain ⟨m, hm, rfl⟩ := exists_of_readField hminute
    obtain ⟨t, ht, rfl⟩ := exists_of_readField hsecond
    simp only at hs₁ hs₃ hs₅
    rw [hs₁, hs₃]
    exact .full hh hm ht (readFraction_eq_nil_iff.mp hs₅) htime
  · cases h

/-- What is read as a time without seconds spells one. -/
theorem spellsTime_of_readShortTime (h : readShortTime s = some []) : SpellsTime s := by
  simp only [readShortTime, Option.bind_eq_bind, Option.bind_eq_some_iff, readChar_eq_some_iff] at h
  obtain ⟨⟨hour, s₁⟩, hhour, s₂, hs₁, ⟨minute, s₃⟩, hminute, h⟩ := h
  split at h
  · next htime =>
    obtain rfl := Option.some.inj h
    obtain ⟨h, hh, rfl⟩ := exists_of_readField hhour
    obtain ⟨m, hm, rfl⟩ := exists_of_readField hminute
    simp only at hs₁
    rw [hs₁, List.append_nil]
    exact .short hh hm htime
  · cases h

/-- The test for times accepts what spells one. -/
theorem isTimeText_iff : isTimeText s = true ↔ SpellsTime s := by
  simp only [isTimeText, readsAll, Bool.or_eq_true, beq_iff_eq]
  constructor
  · rintro (h | h)
    · exact spellsTime_of_readFullTime h
    · exact spellsTime_of_readShortTime h
  · have hcolon (t : List Char) : (':' :: t).takeWhile isDigit = [] := rfl
    rintro (@⟨h, m, hour, minute, hh, hm, htime⟩ | ⟨hh, hm, hs, hfraction, htime⟩)
    · refine .inr ?_
      have hm' : readField (m ++ []) = some (minute, []) := hm.read rfl
      rw [List.append_nil] at hm'
      simp [readShortTime, readChar, hh.read (hcolon _), hm', htime]
    · refine .inl ?_
      simp [readFullTime, readChar, hh.read (hcolon _), hm.read (hcolon _),
        hs.read hfraction.takeWhile_digits, readFraction_eq_nil_iff.mpr hfraction, htime]

/-- A whole text is read as a date if it spells one. -/
theorem readDate_eq_nil_iff : readDate s = some [] ↔ SpellsDate s := by
  constructor
  · intro h
    obtain ⟨date, hdate, rfl⟩ := exists_of_readDate h
    rwa [List.append_nil]
  · intro h
    have hread : readDate (s ++ []) = some [] := h.read rfl
    rwa [List.append_nil] at hread

/-- The test for dates accepts what spells one in ten bytes. -/
theorem isDateText_iff : isDateText s = true ↔ SpellsDate s ∧ Utf8.byteCount s = 10 := by
  simp only [isDateText, readsAll, Bool.and_eq_true, beq_iff_eq, readDate_eq_nil_iff, and_comm]

/-- A date with a time of day is read as a date, the letter between them, and a time. -/
theorem readDateTime_eq_nil_iff {readTime : List Char → Option (List Char)} :
    readDateTime readTime s = some [] ↔
      ∃ date time, s = date ++ 'T' :: time ∧ SpellsDate date ∧ readTime time = some [] := by
  simp only [readDateTime, Option.bind_eq_bind, Option.bind_eq_some_iff, readChar_eq_some_iff]
  constructor
  · rintro ⟨rest, hread, time, rfl, htime⟩
    obtain ⟨date, hdate, rfl⟩ := exists_of_readDate hread
    exact ⟨date, time, rfl, hdate, htime⟩
  · rintro ⟨date, time, rfl, hdate, htime⟩
    exact ⟨'T' :: time, hdate.read rfl, time, rfl, htime⟩

/-- The test for dates with times of day accepts what spells a date, the letter between them, and
what spells a time. -/
theorem isLocalText_iff : isLocalText s = true ↔
    ∃ date time, s = date ++ 'T' :: time ∧ SpellsDate date ∧ isTimeText time = true := by
  simp only [isLocalText, isTimeText, readsAll, Bool.or_eq_true, beq_iff_eq,
    readDateTime_eq_nil_iff]
  constructor
  · rintro (⟨date, time, hs, hdate, htime⟩ | ⟨date, time, hs, hdate, htime⟩)
    · exact ⟨date, time, hs, hdate, .inl htime⟩
    · exact ⟨date, time, hs, hdate, .inr htime⟩
  · rintro ⟨date, time, hs, hdate, htime | htime⟩
    · exact .inl ⟨date, time, hs, hdate, htime⟩
    · exact .inr ⟨date, time, hs, hdate, htime⟩

/-! ## Padded texts -/

/-- So many digits. -/
def IsPadded (width : Nat) (s : List Char) : Prop :=
  s.length = width ∧ ∀ c ∈ s, isDigit c = true

/-- A date in full: four digits, two and two, with hyphens between them. -/
inductive PaddedDate : List Char → Prop
  | fields {y m d : List Char} (hy : IsPadded 4 y) (hm : IsPadded 2 m) (hd : IsPadded 2 d) :
      PaddedDate (y ++ '-' :: (m ++ '-' :: d))

/-- A time of day in full: two digits for hours and minutes, or for seconds too, and a fraction
behind these. -/
inductive PaddedTime : List Char → Prop
  | short {h m : List Char} (hh : IsPadded 2 h) (hm : IsPadded 2 m) : PaddedTime (h ++ ':' :: m)
  | full {h m s fraction : List Char} (hh : IsPadded 2 h) (hm : IsPadded 2 m) (hs : IsPadded 2 s)
      (hfraction : IsFraction fraction) :
      PaddedTime (h ++ ':' :: (m ++ ':' :: (s ++ fraction)))

/-- No blanks anywhere. -/
def IsBlankless (s : List Char) : Prop := ∀ c ∈ s, isBlank c = false

/-- Digits are no blanks. -/
theorem IsPadded.isBlankless (h : IsPadded most s) : IsBlankless s :=
  fun c hc => isBlank_of_isDigit (h.2 c hc)

/-- There are no blanks in front of a text without blanks. -/
theorem IsSpace.eq_nil {space : List Char} (h : IsSpace space) (hs : IsBlankless (space ++ s)) :
    space = [] := by
  refine List.eq_nil_iff_forall_not_mem.mpr fun c hc => ?_
  have hblank := h c hc
  rw [hs c (List.mem_append_left _ hc)] at hblank
  cases hblank

/-- Without blanks, a field is a number. -/
theorem IsField.isNumber (h : IsField s n) (hs : IsBlankless s) : IsNumber 2 s n := by
  cases h with
  | spelt hspace hdigits =>
    obtain rfl := hspace.eq_nil hs
    exact hdigits

/-- Without blanks and a sign, a year is a number of at most four digits. -/
theorem IsYearField.isNumber {year : Int} (h : IsYearField s year) (hs : IsBlankless s)
    (hsign : s.head? ≠ some '-' ∧ s.head? ≠ some '+') : ∃ n, IsNumber 4 s n := by
  cases h with
  | plain hspace hdigits =>
    obtain rfl := hspace.eq_nil hs
    exact ⟨_, hdigits⟩
  | negative hspace hdigits =>
    obtain rfl := hspace.eq_nil hs
    exact absurd rfl hsign.1
  | positive hspace hdigits =>
    obtain rfl := hspace.eq_nil hs
    exact absurd rfl hsign.2

/-- A number that is as long as it may be is padded. -/
theorem IsNumber.isPadded (h : IsNumber most s n) (hlength : s.length = most) : IsPadded most s :=
  ⟨hlength, h.digits⟩

/-- The characters of a number are ASCII characters. -/
theorem IsNumber.ascii (h : IsNumber most s n) : ∀ c ∈ s, c.toNat < 128 := by
  intro c hc
  have hrange := isDigit_iff.mp (h.digits c hc)
  omega

/-- A padded date has no blanks, and it does not begin with a sign. -/
theorem PaddedDate.plain (h : PaddedDate s) :
    IsBlankless s ∧ s.head? ≠ some '-' ∧ s.head? ≠ some '+' := by
  obtain @⟨y, m, d, hy, hm, hd⟩ := h
  constructor
  · simp only [IsBlankless, List.forall_mem_append, List.forall_mem_cons]
    exact ⟨hy.isBlankless, by decide, hm.isBlankless, by decide, hd.isBlankless⟩
  · cases y with
    | nil => cases hy.1
    | cons c y =>
      have hc : isDigit c = true := hy.2 c List.mem_cons_self
      have hne {sign : Char} (hsign : isDigit sign = false) :
          (c :: y ++ '-' :: (m ++ '-' :: d)).head? ≠ some sign := by
        intro heq
        obtain rfl := Option.some.inj heq
        rw [hc] at hsign
        cases hsign
      exact ⟨hne (by decide), hne (by decide)⟩

/-- A padded date is ten characters long. -/
theorem PaddedDate.length_eq (h : PaddedDate s) : s.length = 10 := by
  obtain ⟨hy, hm, hd⟩ := h
  simp only [List.length_append, List.length_cons, hy.1, hm.1, hd.1]

/-- What spells a date in ten bytes is padded if it has no blanks and does not begin with a sign. -/
theorem paddedDate_iff (h : SpellsDate s) (hbytes : Utf8.byteCount s = 10) :
    PaddedDate s ↔ IsBlankless s ∧ s.head? ≠ some '-' ∧ s.head? ≠ some '+' := by
  refine ⟨PaddedDate.plain, ?_⟩
  rintro ⟨hs, hminus, hplus⟩
  cases h with
  | @fields y m d year month day hy hm hd hdate =>
    simp only [IsBlankless, List.forall_mem_append, List.forall_mem_cons] at hs
    rw [List.head?_append] at hminus hplus
    obtain ⟨n, hy⟩ := hy.isNumber hs.1
      ⟨fun h => hminus (by rw [h]; rfl), fun h => hplus (by rw [h]; rfl)⟩
    have hm := hm.isNumber hs.2.2.1
    have hd := hd.isNumber hs.2.2.2.2
    have hascii : ∀ c ∈ y ++ '-' :: (m ++ '-' :: d), c.toNat < 128 := by
      simp only [List.forall_mem_append, List.forall_mem_cons]
      exact ⟨hy.ascii, by decide, hm.ascii, by decide, hd.ascii⟩
    -- ten bytes leave no room but for the greatest lengths of all three numbers
    have hlength := Utf8.byteCount_eq_length_iff.mpr hascii
    simp only [hbytes, List.length_append, List.length_cons] at hlength
    have hyl := hy.length_le
    have hml := hm.length_le
    have hdl := hd.length_le
    exact .fields (hy.isPadded (by omega)) (hm.isPadded (by omega)) (hd.isPadded (by omega))

/-- A padded time has two fields of two digits at least, and a colon between them. -/
theorem PaddedTime.five_le_length (h : PaddedTime s) : 5 ≤ s.length := by
  obtain ⟨hh, hm⟩ | ⟨hh, hm, -, -⟩ := h
  all_goals
    simp only [List.length_append, List.length_cons, hh.1, hm.1]
    omega

/-! ### Lengths of times -/

/-- A text up to its first point. -/
def untilPoint (s : List Char) : List Char := s.takeWhile fun c => c != '.'

/-- A fraction is what is behind the rest of a text. -/
theorem IsFraction.untilPoint_append (h : IsFraction rest) (hs : ∀ c ∈ s, c ≠ '.') :
    untilPoint (s ++ rest) = s := by
  have hrest : untilPoint rest = [] := by cases h <;> rfl
  unfold untilPoint at hrest ⊢
  rw [List.takeWhile_append_of_pos (by simpa using hs), hrest, List.append_nil]

/-- Among digits there is no colon. -/
theorem count_colon_of_digits (h : ∀ c ∈ s, isDigit c = true) : s.count ':' = 0 :=
  List.count_eq_zero.mpr fun hcolon => absurd (h _ hcolon) (by decide)

/-- In a fraction there is no colon. -/
theorem IsFraction.count_colon (h : IsFraction s) : s.count ':' = 0 := by
  cases h with
  | none => rfl
  | digits _ hdigits =>
    rw [List.count_cons_of_ne (by decide), count_colon_of_digits hdigits]

/-- In a fraction there are no blanks. -/
theorem IsFraction.isBlankless (h : IsFraction s) : IsBlankless s := by
  cases h with
  | none => exact fun _ hc => absurd hc List.not_mem_nil
  | digits _ hdigits =>
    exact List.forall_mem_cons.mpr ⟨by decide, fun c hc => isBlank_of_isDigit (hdigits c hc)⟩

/-- A text of digits has no point. -/
theorem ne_point_of_digits (h : ∀ c ∈ s, isDigit c = true) : ∀ c ∈ s, c ≠ '.' := by
  rintro _ hc rfl
  exact absurd (h _ hc) (by decide)

/-- The lengths that a time of two numbers is made of. -/
theorem measure_short {h m : List Char} (hh : ∀ c ∈ h, isDigit c = true)
    (hm : ∀ c ∈ m, isDigit c = true) :
    (untilPoint (h ++ ':' :: m)).length = h.length + m.length + 1 ∧
      (h ++ ':' :: m).count ':' = 1 := by
  have hpoint : ∀ c ∈ h ++ ':' :: m, c ≠ '.' := by
    simp only [List.forall_mem_append, List.forall_mem_cons]
    exact ⟨ne_point_of_digits hh, by decide, ne_point_of_digits hm⟩
  have huntil := IsFraction.none.untilPoint_append hpoint
  rw [List.append_nil] at huntil
  constructor
  · rw [huntil, List.length_append, List.length_cons]
    omega
  · simp [count_colon_of_digits hh, count_colon_of_digits hm]

/-- The lengths that a time of three numbers and a fraction is made of. -/
theorem measure_full {h m t fraction : List Char} (hh : ∀ c ∈ h, isDigit c = true)
    (hm : ∀ c ∈ m, isDigit c = true) (ht : ∀ c ∈ t, isDigit c = true)
    (hfraction : IsFraction fraction) :
    (untilPoint (h ++ ':' :: (m ++ ':' :: (t ++ fraction)))).length =
        h.length + m.length + t.length + 2 ∧
      (h ++ ':' :: (m ++ ':' :: (t ++ fraction))).count ':' = 2 := by
  have hpoint : ∀ c ∈ h ++ ':' :: (m ++ ':' :: t), c ≠ '.' := by
    simp only [List.forall_mem_append, List.forall_mem_cons]
    exact ⟨ne_point_of_digits hh, by decide, ne_point_of_digits hm, by decide,
      ne_point_of_digits ht⟩
  have huntil := hfraction.untilPoint_append hpoint
  simp only [List.append_assoc, List.cons_append] at huntil
  constructor
  · rw [huntil, List.length_append, List.length_cons, List.length_append, List.length_cons]
    omega
  · simp [count_colon_of_digits hh, count_colon_of_digits hm, count_colon_of_digits ht,
      hfraction.count_colon]

/-- What spells a time is padded if it has no blanks and, up to its fraction, is long enough. The
colons tell how many fields there are, and no field is longer than two digits. -/
theorem paddedTime_iff (h : SpellsTime s) :
    PaddedTime s ↔ IsBlankless s ∧ (untilPoint s).length = 3 * s.count ':' + 2 := by
  constructor
  · rintro (⟨hh, hm⟩ | ⟨hh, hm, ht, hfraction⟩)
    · obtain ⟨hlength, hcount⟩ := measure_short hh.2 hm.2
      refine ⟨?_, by rw [hlength, hcount, hh.1, hm.1]⟩
      simp only [IsBlankless, List.forall_mem_append, List.forall_mem_cons]
      exact ⟨hh.isBlankless, by decide, hm.isBlankless⟩
    · obtain ⟨hlength, hcount⟩ := measure_full hh.2 hm.2 ht.2 hfraction
      refine ⟨?_, by rw [hlength, hcount, hh.1, hm.1, ht.1]⟩
      simp only [IsBlankless, List.forall_mem_append, List.forall_mem_cons]
      exact ⟨hh.isBlankless, by decide, hm.isBlankless, by decide, ht.isBlankless,
        hfraction.isBlankless⟩
  · rintro ⟨hs, hlong⟩
    cases h with
    | short hh hm htime =>
      simp only [IsBlankless, List.forall_mem_append, List.forall_mem_cons] at hs
      have hh := hh.isNumber hs.1
      have hm := hm.isNumber hs.2.2
      obtain ⟨hlength, hcount⟩ := measure_short hh.digits hm.digits
      rw [hlength, hcount] at hlong
      have hhl := hh.length_le
      have hml := hm.length_le
      exact .short (hh.isPadded (by omega)) (hm.isPadded (by omega))
    | full hh hm ht hfraction htime =>
      simp only [IsBlankless, List.forall_mem_append, List.forall_mem_cons] at hs
      have hh := hh.isNumber hs.1
      have hm := hm.isNumber hs.2.2.1
      have ht := ht.isNumber hs.2.2.2.2.1
      obtain ⟨hlength, hcount⟩ := measure_full hh.digits hm.digits ht.digits hfraction
      rw [hlength, hcount] at hlong
      have hhl := hh.length_le
      have hml := hm.length_le
      have htl := ht.length_le
      exact .full (hh.isPadded (by omega)) (hm.isPadded (by omega)) (ht.isPadded (by omega))
        hfraction

end Standard.Calendar

/-! ## Rules -/

namespace StandardRule

open Standard Calendar

variable {s : String} {args : List Value}

/-- A date is what spells one in ten bytes. -/
theorem dateIso8601_passes_iff [PatternEngine] : dateIso8601.Passes (.string s) args ↔
    SpellsDate s.toList ∧ Utf8.byteCount s.toList = 10 := by
  have hplain : dateIso8601.check (.string s) args = plain (onText isDateText) (.string s) := rfl
  exact (passes_iff_of_plain hplain).trans isDateText_iff

/-- A time is what spells one. -/
theorem timeIso8601_passes_iff [PatternEngine] :
    timeIso8601.Passes (.string s) args ↔ SpellsTime s.toList := by
  have hplain : timeIso8601.check (.string s) args = plain (onText isTimeText) (.string s) := rfl
  exact (passes_iff_of_plain hplain).trans isTimeText_iff

/-- The rules for dates and times accept what spells a date in ten bytes, what spells a time, and
what has an offset or spells a date and, behind the letter `T`, a time. What spells a date need not
be padded, even in ten bytes: it is if it has no blanks and no sign. What spells a time is padded if
it has no blanks and a time of two fields is five characters long, one of three fields eight. -/
theorem isoText_passes_iff [PatternEngine] (s : String) (args : List Value) :
    (dateIso8601.Passes (.string s) args ↔
      SpellsDate s.toList ∧ Utf8.byteCount s.toList = 10) ∧
    (timeIso8601.Passes (.string s) args ↔ SpellsTime s.toList) ∧
    (dateTimeIso8601.Passes (.string s) args ↔ dateTimeIso8601Zonal.Passes (.string s) args ∨
      ∃ date time : String, s = date ++ "T" ++ time ∧ SpellsDate date.toList ∧
        timeIso8601.Passes (.string time) args) ∧
    (dateIso8601.Passes (.string s) args ∧ PaddedDate s.toList ↔
      dateIso8601.Passes (.string s) args ∧ IsBlankless s.toList ∧
        s.toList.head? ≠ some '-' ∧ s.toList.head? ≠ some '+') ∧
    (timeIso8601.Passes (.string s) args ∧ PaddedTime s.toList ↔
      timeIso8601.Passes (.string s) args ∧ IsBlankless s.toList ∧
        (untilPoint s.toList).length = 3 * s.toList.count ':' + 2) := by
  refine ⟨dateIso8601_passes_iff, timeIso8601_passes_iff, ?_, ?_, ?_⟩
  · have hzonal : dateTimeIso8601Zonal.check (.string s) args =
        plain (onText isZonalText) (.string s) := rfl
    have hdateTime : dateTimeIso8601.check (.string s) args =
        plain (onText isDateTimeText) (.string s) := rfl
    rw [passes_iff_of_plain hdateTime, passes_iff_of_plain hzonal]
    simp only [onText, isDateTimeText, Bool.or_eq_true, isLocalText_iff, isTimeText_iff,
      timeIso8601_passes_iff]
    refine or_congr_right ⟨?_, ?_⟩
    · rintro ⟨date, time, hs, hdate, htime⟩
      refine ⟨.ofList date, .ofList time, ?_, by simpa using hdate, by simpa using htime⟩
      apply String.toList_injective
      simpa using hs
    · rintro ⟨date, time, rfl, hdate, htime⟩
      exact ⟨date.toList, time.toList, by simp, hdate, htime⟩
  · rw [dateIso8601_passes_iff, and_congr_right_iff]
    exact fun h => paddedDate_iff h.1 h.2
  · rw [timeIso8601_passes_iff, and_congr_right_iff]
    exact paddedTime_iff

/-- A time, a date and a date with a time of day that are accepted, but not padded; nor is there a
date among those accepted in front of the letter of the last. -/
theorem unpadded_texts_pass :
    (timeIso8601.Passes (.string "7:5") [] ∧ ¬PaddedTime "7:5".toList) ∧
    (dateIso8601.Passes (.string " 2024-1-01") [] ∧ ¬PaddedDate " 2024-1-01".toList) ∧
    (dateTimeIso8601.Passes (.string "2024-5-1T1:0") [] ∧
      ¬dateTimeIso8601Zonal.Passes (.string "2024-5-1T1:0") [] ∧
      ¬∃ date time : String, "2024-5-1T1:0" = date ++ "T" ++ time ∧
        (dateIso8601.Passes (.string date) [] ∨ PaddedDate date.toList)) := by
  have hzonal : dateTimeIso8601Zonal.check (.string "2024-5-1T1:0") [] =
      plain (onText isZonalText) (.string "2024-5-1T1:0") := rfl
  refine ⟨⟨⟨_, rfl, by decide +kernel⟩, fun h => ?_⟩, ⟨⟨_, rfl, by decide +kernel⟩, fun h => ?_⟩,
    ⟨_, rfl, by decide +kernel⟩, ?_, ?_⟩
  · exact absurd h.five_le_length (by decide)
  · exact absurd (h.plain.1 ' ' (by decide)) (by decide)
  · rw [passes_iff_of_plain hzonal]
    decide +kernel
  · rintro ⟨date, time, heq, hdate⟩
    have hsplit : "2024-5-1".toList ++ 'T' :: "1:0".toList = date.toList ++ 'T' :: time.toList := by
      simpa using congrArg String.toList heq
    -- the letter occurs once, so the date in front of it is known, and it is too short
    obtain ⟨hshort, -, -⟩ :=
      (List.append_cons_inj_of_notMem (by decide) (by decide)).mp hsplit
    obtain rfl := String.toList_injective hshort
    obtain h | h := hdate
    · exact absurd (dateIso8601_passes_iff.mp h).2 (by decide)
    · exact absurd h.length_eq (by decide)

end StandardRule

end Rulebook
