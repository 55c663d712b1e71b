import Rulebook.Json.Reader
import Rulebook.Proofs.Json.DistinctKeys

/-!
# Values that are read

Every value that is read from a JSON text has distinct keys: a key that is repeated in an object
takes its last value at its first place.
-/

namespace Rulebook.Json

namespace Reader

/-- Whatever a reader gives has a property. -/
def Yields {α : Type} (P : α → Prop) (r : Reader α) : Prop :=
  ∀ cursor a, (ExceptT.run r cursor).1 = .ok a → P a

namespace Yields

variable {α β : Type} {P : α → Prop} {Q : β → Prop} {r : Reader α}

/-- A reader that gives a value without reading. -/
theorem pure {a : α} (h : P a) : Yields P (Pure.pure a) := by
  intro cursor b hb
  obtain rfl := Except.ok.inj hb
  exact h

/-- A reader that throws gives nothing. -/
theorem throw (e : ReadError) : Yields P (MonadExcept.throw e) := by
  intro cursor a h
  cases h

/-- A reader gives what the next one gives. -/
theorem bind {next : α → Reader β} (h : Yields P r) (hnext : ∀ a, P a → Yields Q (next a)) :
    Yields Q (r >>= next) := by
  intro cursor b hb
  change (ExceptT.bindCont next (ExceptT.run r cursor).1 (ExceptT.run r cursor).2).1 = _ at hb
  cases hrun : (ExceptT.run r cursor).1 with
  | error e =>
    rw [hrun] at hb
    cases hb
  | ok a =>
    rw [hrun] at hb
    exact hnext a (h cursor a hrun) _ b hb

/-- Nothing is known of what a reader gives. -/
theorem any (r : Reader α) : Yields (fun _ => True) r := fun _ _ _ => trivial

/-- A reader gives what the next one gives, whatever the first one gave. -/
theorem next {next : α → Reader β} (h : ∀ a, Yields Q (next a)) : Yields Q (r >>= next) :=
  (any r).bind fun a _ => h a

/-- A reader whose result is changed. -/
theorem map {f : α → β} (h : Yields P r) (hf : ∀ a, P a → Q (f a)) : Yields Q (f <$> r) := by
  have heq : f <$> r = r >>= fun a => Pure.pure (f a) := map_eq_pure_bind f r
  rw [heq]
  exact h.bind fun a ha => pure (hf a ha)

/-- A failure gives nothing. -/
theorem fail (path : Path) (fault : ReadFault) : Yields P (Reader.fail path fault) :=
  next fun _ => throw _

/-- A failure at the next byte gives nothing. -/
theorem failAtNext (path : Path) (fault : ReadFault) : Yields P (Reader.failAtNext path fault) :=
  next fun _ => throw _

end Yields

/-- The items of an array have what the reader of items gives. -/
theorem itemsFrom_yields {α : Type} {P : α → Prop} {item : Path → Reader α}
    (hitem : ∀ path, Yields P (item path)) (path : Path) (fuel index : Nat) :
    Yields (fun items => ∀ a ∈ items, P a) (itemsFrom path item fuel index) := by
  induction fuel generalizing index with
  | zero => exact .fail _ _
  | succ fuel ih =>
    refine .next fun more => ?_
    cases more with
    | false => exact .pure (by simp)
    | true =>
      refine (hitem _).bind fun a ha => ?_
      exact (ih (index + 1)).map fun rest hrest => List.forall_mem_cons.mpr ⟨ha, hrest⟩

/-- The members of an object have distinct keys if those before them had, and the values that are
read have. -/
theorem membersFrom_yields {value : Path → Reader Value}
    (hvalue : ∀ path, Yields Value.KeysDistinct (value path)) (path : Path) (fuel : Nat)
    (first : Bool) {members : Members} (h : (Value.object members).KeysDistinct) :
    Yields (fun members => (Value.object members).KeysDistinct)
      (membersFrom path value fuel first members) := by
  induction fuel generalizing first members with
  | zero => exact .fail _ _
  | succ fuel ih =>
    refine .next fun key => ?_
    cases key with
    | none => exact .pure h
    | some key =>
      refine .next fun _ => (hvalue _).bind fun v hv => ih false ?_
      obtain ⟨hkeys, hvalues⟩ := Value.keysDistinct_object.mp h
      refine Value.keysDistinct_object.mpr
        ⟨Association.nodup_keys_insert key v hkeys, fun m hm => ?_⟩
      rcases Association.mem_of_mem_insert hm with rfl | hold
      · exact hv
      · exact hvalues m hold

/-- A value has distinct keys if the values in it have. -/
theorem valueWith_yields {inner : Option (Path → Reader Value)}
    (hinner : ∀ read, inner = some read → ∀ path, Yields Value.KeysDistinct (read path))
    (path : Path) : Yields Value.KeysDistinct (valueWith inner path) := by
  refine .next fun token => ?_
  split
  · exact .failAtNext _ _
  · exact .next fun _ => .pure trivial
  · exact .next fun _ => .pure trivial
  · exact .next fun _ => .pure trivial
  · exact (Yields.any _).map fun _ _ => trivial
  · exact .next fun _ => (Yields.any _).map fun _ _ => trivial
  · split
    · next read =>
      have hitems (length : Nat) := itemsFrom_yields (hinner read rfl) path length 0
      refine Yields.map (P := fun items => ∀ v ∈ items, v.KeysDistinct) ?_
        fun items h => Value.keysDistinct_array.mpr h
      exact .next fun _ => .next fun rest => (hitems _).bind fun items h => .next fun _ => .pure h
    · exact .failAtNext _ _
  · split
    · next read =>
      have hblank : (Value.object []).KeysDistinct := by simp [Association.keys]
      have hmembers (length : Nat) :=
        membersFrom_yields (hinner read rfl) path length true hblank
      refine Yields.map (P := fun members => (Value.object members).KeysDistinct) ?_
        fun members h => h
      exact .next fun _ => .next fun rest => (hmembers _).bind fun members h =>
        .next fun _ => .pure h
    · exact .failAtNext _ _
  · split
    · exact (Yields.any _).map fun _ _ => trivial
    · exact .failAtNext _ _

/-- Every value that is read has distinct keys. -/
theorem value_yields (levels : Nat) (path : Path) :
    Yields Value.KeysDistinct (value levels path) := by
  induction levels generalizing path with
  | zero => exact valueWith_yields (by simp) path
  | succ levels ih =>
    refine valueWith_yields (fun read hread => ?_) path
    obtain rfl := Option.some.inj hread
    exact ih

end Reader

/-- A value that is read from bytes has distinct keys. -/
theorem Value.keysDistinct_of_ofBytes {bytes : List UInt8} {v : Value}
    (h : Value.ofBytes bytes = .ok v) : v.KeysDistinct :=
  Reader.value_yields _ _ _ _ h

end Rulebook.Json
