import Rulebook.Proofs.Json.Reading

/-!
# Readers and what they look at

A reader is local on a text if what it gives depends on the bytes that it takes and on very little of what
stands behind them. Locality is kept when readers are put together. A reader with more fuel than there are
bytes gives what it gives with less fuel, so that locality is kept where the fuel is a bound on the bytes left.
-/

namespace Rulebook.Json

namespace Reader

variable {α β : Type}

/-! ## Running -/

/-- Whatever the text is, there is an error. -/
abbrev GivesNothing (r : Reader α) : Prop := Yields (fun _ => False) r

/-- The reader takes bytes off every text in which these others follow them, and gives an answer. -/
def Gives (r : Reader α) (bytes after : List UInt8) (a : α) : Prop :=
  ∀ seen, ∃ behind, ExceptT.run r ⟨seen, bytes ++ after⟩ = (.ok a, ⟨behind, after⟩)

/-- The next reader starts where the first one stops. -/
theorem run_bind_of_ok {r : Reader α} {f : α → Reader β} {c c' : Cursor} {a : α}
    (h : ExceptT.run r c = (.ok a, c')) : ExceptT.run (r >>= f) c = ExceptT.run (f a) c' := by
  change ExceptT.bindCont f (ExceptT.run r c).1 (ExceptT.run r c).2 = _
  rw [h]
  rfl

/-- Two readers in a row give an answer if both do. -/
theorem exists_of_run_bind {r : Reader α} {f : α → Reader β} {c c' : Cursor} {b : β}
    (h : ExceptT.run (r >>= f) c = (.ok b, c')) :
    ∃ a between, ExceptT.run r c = (.ok a, between) ∧ ExceptT.run (f a) between = (.ok b, c') := by
  change ExceptT.bindCont f (ExceptT.run r c).1 (ExceptT.run r c).2 = _ at h
  match hrun : ExceptT.run r c with
  | (.ok a, between) =>
    rw [hrun] at h
    exact ⟨a, between, rfl, h⟩
  | (.error e, between) =>
    rw [hrun] at h
    cases h

/-! ## Looking ahead -/

/-- Whether a byte continues a number that stands in front of it. -/
def continuesNumber (b : UInt8) : Bool := isDigit b || b == 46 || b == 69 || b == 101

/-- How far a reader looks ahead. -/
inductive Lookahead where
  /-- It looks at the byte that follows. -/
  | byte
  /-- It looks whether a byte follows that continues a number. -/
  | number

/-- What follows looks the same as something else. -/
def Lookahead.Alike : Lookahead → List UInt8 → List UInt8 → Prop
  | .byte, after, other => after.head? = other.head?
  | .number, after, other =>
    after.head? = other.head? ∨ ∀ b ∈ other.head?, continuesNumber b = false

variable {k : Lookahead}

/-- What starts with the same byte looks the same. -/
theorem Lookahead.alike_of_head {after other : List UInt8} (h : after.head? = other.head?) :
    k.Alike after other := by
  cases k with
  | byte => exact h
  | number => exact .inl h

/-- What follows looks the same with the same bytes in front of it. -/
theorem Lookahead.Alike.append {after other : List UInt8} (h : k.Alike after other)
    (bytes : List UInt8) : k.Alike (bytes ++ after) (bytes ++ other) := by
  cases bytes with
  | nil => exact h
  | cons b bytes => exact alike_of_head rfl

/-- On a text, a reader takes at least so many bytes, and what it gives depends on them and on how the
rest looks. -/
def Local (k : Lookahead) (least : Nat) (r : Reader α) (text : List UInt8) : Prop :=
  ∀ seen a c, ExceptT.run r ⟨seen, text⟩ = (.ok a, c) →
    ∃ bytes, least ≤ bytes.length ∧ text = bytes ++ c.rest ∧
      ∀ other, k.Alike c.rest other → r.Gives bytes other a

variable {r : Reader α} {f : α → Reader β} {text : List UInt8} {least : Nat}

/-- Two readers in a row take what the first one takes and then what the second one takes. -/
theorem Gives.bind {bytes more after : List UInt8} {a : α} {b : β}
    (h : r.Gives bytes (more ++ after) a) (hf : (f a).Gives more after b) :
    Gives (r >>= f) (bytes ++ more) after b := by
  intro seen
  obtain ⟨between, hr⟩ := h seen
  obtain ⟨behind, hnext⟩ := hf between
  refine ⟨behind, ?_⟩
  rw [List.append_assoc, run_bind_of_ok hr, hnext]

namespace Local

theorem weaken (h : Local k least r text) : Local k 0 r text := by
  intro seen a c hrun
  obtain ⟨bytes, -, hbytes⟩ := h seen a c hrun
  exact ⟨bytes, Nat.zero_le _, hbytes⟩

/-- A reader that looks less far ahead may be said to look at the byte that follows. -/
theorem toByte (h : Local k least r text) : Local .byte least r text := by
  intro seen a c hrun
  obtain ⟨bytes, htakes, htext, hgives⟩ := h seen a c hrun
  exact ⟨bytes, htakes, htext, fun other halike => hgives other (Lookahead.alike_of_head halike)⟩

/-- Nothing is said of a reader that gives nothing. -/
theorem of_nothing (h : GivesNothing r) : Local k least r text := by
  intro seen a c hrun
  exact (h ⟨seen, text⟩ a (by rw [hrun])).elim

theorem pure (a : α) : Local k 0 (Pure.pure a : Reader α) text := by
  intro seen b c hrun
  obtain ⟨rfl, rfl⟩ : a = b ∧ ⟨seen, text⟩ = c := by
    cases hrun
    exact ⟨rfl, rfl⟩
  exact ⟨[], Nat.zero_le _, rfl, fun other _ seen => ⟨seen, rfl⟩⟩

/-- Two readers in a row are local if the first one sees no difference in front of what the second one
takes. -/
theorem bind_of_alike {first : Lookahead} {more : Nat} (h : Local first least r text)
    (hf : ∀ a after, Local k more (f a) after)
    (halike : ∀ bytes after other, more ≤ bytes.length → k.Alike after other →
      first.Alike (bytes ++ after) (bytes ++ other)) : Local k (least + more) (r >>= f) text := by
  intro seen b c hrun
  obtain ⟨a, between, hfirst, hsecond⟩ := exists_of_run_bind hrun
  obtain ⟨bytes, htakes, htext, hgives⟩ := h seen a between hfirst
  obtain ⟨next, hnext, hrest, hends⟩ := hf a between.rest between.seen b c hsecond
  refine ⟨bytes ++ next, ?_, by rw [htext, hrest, List.append_assoc], fun other hother => ?_⟩
  · rw [List.length_append]
    omega
  · exact (hgives _ (hrest ▸ halike next c.rest other hnext hother)).bind (hends other hother)

theorem bind (h : Local k least r text) (hf : ∀ a after, Local k 0 (f a) after) :
    Local k least (r >>= f) text :=
  h.bind_of_alike hf fun bytes _ _ _ halike => halike.append bytes

/-- If the second reader takes a byte, it does not matter what the first one sees behind that byte. -/
theorem bind_taking (h : Local .byte 0 r text) (hf : ∀ a after, Local k 1 (f a) after) :
    Local k 1 (r >>= f) text := by
  refine h.bind_of_alike hf fun bytes after other htakes _ => Lookahead.alike_of_head ?_
  obtain ⟨b, bytes, rfl⟩ := List.exists_cons_of_length_pos htakes
  rfl

theorem map {g : α → β} (h : Local k least r text) : Local k least (g <$> r) text := by
  rw [map_eq_pure_bind]
  exact h.bind fun _ _ => .pure _

end Local

/-! ## Bytes -/

/-- The byte at the start of a text, as a character. -/
def firstOf (text : List UInt8) : Option Char := (Cursor.start text).peek?

theorem firstOf_eq_of_head {other : List UInt8} (h : text.head? = other.head?) :
    firstOf text = firstOf other := by
  simp only [firstOf, Cursor.start, Cursor.peek?, h]

theorem gives_advance (bytes after : List UInt8) : (advance bytes.length).Gives bytes after () := by
  intro seen
  induction bytes generalizing seen with
  | nil => exact ⟨seen, rfl⟩
  | cons b bytes ih => exact ih (b :: seen)

namespace Local

theorem peek : Local .byte 0 peek text := by
  intro seen a c hrun
  obtain ⟨rfl, rfl⟩ : firstOf text = a ∧ ⟨seen, text⟩ = c := by
    cases hrun
    exact ⟨rfl, rfl⟩
  refine ⟨[], Nat.zero_le _, rfl, fun other halike seen => ⟨seen, ?_⟩⟩
  rw [firstOf_eq_of_head halike]
  rfl

/-- A reader that looks at the byte that it takes. -/
theorem peek_bind {f : Option Char → Reader β} (h : Local k 1 (f (firstOf text)) text) :
    Local k 1 (Reader.peek >>= f) text := by
  intro seen b c hrun
  obtain ⟨bytes, htakes, htext, hgives⟩ := h seen b c hrun
  refine ⟨bytes, htakes, htext, fun other halike seen => ?_⟩
  obtain ⟨first, bytes, rfl⟩ := List.exists_cons_of_length_pos htakes
  rw [htext] at hgives
  exact hgives other halike seen

theorem skip_bind {f : Unit → Reader β} {b : UInt8} {more : List UInt8}
    (h : Local k 0 (f ()) more) : Local k 1 (skip >>= f) (b :: more) := by
  intro seen a c hrun
  obtain ⟨bytes, -, htext, hgives⟩ := h (b :: seen) a c hrun
  exact ⟨b :: bytes, by simp, by rw [htext]; rfl, fun other halike seen =>
    hgives other halike (b :: seen)⟩

/-- A byte that is there is taken. -/
theorem skip_cons {b : UInt8} {more : List UInt8} : Local k 1 skip (b :: more) := by
  have h : Local k 1 (Reader.skip >>= Pure.pure) (b :: more) := .skip_bind (.pure ())
  rwa [bind_pure] at h

theorem skip : Local .byte 0 skip text := by
  cases text with
  | nil =>
    intro seen a c hrun
    obtain rfl : ⟨seen, []⟩ = c := by
      cases hrun
      rfl
    refine ⟨[], Nat.zero_le _, rfl, fun other halike seen => ⟨seen, ?_⟩⟩
    obtain rfl : other = [] := List.head?_eq_none_iff.mp halike.symm
    rfl
  | cons b more => exact skip_cons.weaken

/-- Nothing is said of a reader that gives nothing for a text. -/
theorem rest_bind_of_nothing {f : List UInt8 → Reader β} (h : GivesNothing (f text)) :
    Local k least (rest >>= f) text := by
  intro seen b c hrun
  exact (h ⟨seen, text⟩ b (congrArg Prod.fst hrun)).elim

/-- A reader that sees some bytes and takes them, whatever they are followed by. -/
theorem rest_bind {f : List UInt8 → Reader β} {bytes after : List UInt8} {next : Reader β}
    (hleast : least ≤ bytes.length)
    (hf : ∀ other, k.Alike after other → f (bytes ++ other) = advance bytes.length >>= fun _ => next)
    (hnext : Local k 0 next after) : Local k least (rest >>= f) (bytes ++ after) := by
  intro seen b c hrun
  have hhere : ExceptT.run (advance bytes.length >>= fun _ => next) ⟨seen, bytes ++ after⟩ =
      (.ok b, c) := by
    rw [← hf after (Lookahead.alike_of_head rfl)]
    exact hrun
  obtain ⟨behind, hadvance⟩ := gives_advance bytes after seen
  rw [run_bind_of_ok hadvance] at hhere
  obtain ⟨more, -, hrest, hgives⟩ := hnext behind b c hhere
  refine ⟨bytes ++ more, ?_, by rw [hrest, List.append_assoc], fun other halike seen => ?_⟩
  · rw [List.length_append]
    omega
  · have hthere := (gives_advance bytes (more ++ other)).bind (f := fun _ => next) (hgives other halike)
    rw [← hf (more ++ other) (hrest ▸ halike.append more)] at hthere
    obtain ⟨behind, hthere⟩ := hthere seen
    refine ⟨behind, ?_⟩
    rw [← hthere, ← List.append_assoc]
    rfl

end Local

/-! ## Fuel -/

/-- On a text, a reader gives what another one gives. -/
def Extends (r' r : Reader α) (text : List UInt8) : Prop :=
  ∀ seen a c, ExceptT.run r ⟨seen, text⟩ = (.ok a, c) → ExceptT.run r' ⟨seen, text⟩ = (.ok a, c)

theorem Extends.refl : Extends r r text := fun _ _ _ h => h

theorem Extends.of_nothing {r' : Reader α} (h : GivesNothing r) : Extends r' r text := by
  intro seen a c hrun
  exact (h ⟨seen, text⟩ a (by rw [hrun])).elim

theorem Extends.rest_bind {f f' : List UInt8 → Reader β} (h : Extends (f' text) (f text) text) :
    Extends (rest >>= f') (rest >>= f) text :=
  h

/-- The rest that two readers differ in is shorter than the text. -/
theorem Extends.bind {f' : α → Reader β} (hr : Local k least r text)
    (hf : ∀ a after, after.length + least ≤ text.length → Extends (f' a) (f a) after) :
    Extends (r >>= f') (r >>= f) text := by
  intro seen b c hrun
  obtain ⟨a, between, hfirst, hsecond⟩ := exists_of_run_bind hrun
  obtain ⟨bytes, htakes, htext, -⟩ := hr seen a between hfirst
  have hlength : between.rest.length + least ≤ text.length := by
    rw [htext, List.length_append]
    omega
  rw [run_bind_of_ok hfirst]
  exact hf a between.rest hlength between.seen b c hsecond

theorem Extends.bind_same {r' : Reader α} (h : Extends r' r text) : Extends (r' >>= f) (r >>= f) text := by
  intro seen b c hrun
  obtain ⟨a, between, hfirst, hsecond⟩ := exists_of_run_bind hrun
  rw [run_bind_of_ok (h seen a between hfirst)]
  exact hsecond

theorem Extends.map {r' : Reader α} {g : α → β} (h : Extends r' r text) :
    Extends (g <$> r') (g <$> r) text := by
  rw [map_eq_pure_bind, map_eq_pure_bind]
  exact h.bind_same

theorem Extends.advance_bind {f f' : Unit → Reader β} (bytes : List UInt8) {after : List UInt8}
    (h : Extends (f' ()) (f ()) after) :
    Extends (advance bytes.length >>= f') (advance bytes.length >>= f) (bytes ++ after) := by
  intro seen b c hrun
  obtain ⟨behind, hadvance⟩ := gives_advance bytes after seen
  rw [run_bind_of_ok hadvance] at hrun ⊢
  exact h behind b c hrun

/-- A reader whose fuel is a bound on the bytes left. -/
theorem Local.fuel_bind {r : Nat → Reader β} (hr : ∀ fuel, Local k least (r fuel) text)
    (hfuel : ∀ fuel fuel' text, text.length < fuel' → Extends (r fuel') (r fuel) text) :
    Local k least (rest >>= fun bytes => r (bytes.length + 1)) text := by
  intro seen b c hrun
  obtain ⟨bytes, htakes, htext, hgives⟩ := hr (text.length + 1) seen b c hrun
  refine ⟨bytes, htakes, htext, fun other halike seen => ?_⟩
  obtain ⟨behind, hgives⟩ := hgives other halike seen
  exact ⟨behind, hfuel _ _ _ (Nat.lt_succ_self _) seen b _ hgives⟩

end Reader

end Rulebook.Json
