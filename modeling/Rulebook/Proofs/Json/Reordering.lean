import Rulebook.Proofs.Json.DistinctKeys

/-!
# The order of members

Two values may differ in nothing but the order in which their objects, at any depth, list their
members. Equality of values does not tell such values apart.
-/

namespace Rulebook

namespace Association

variable {α : Type}

/-- Where keys are distinct, their order does not matter to looking up. -/
theorem lookup_of_perm {entries other : List (String × α)} (hkeys : (keys entries).Nodup)
    (h : other.Perm entries) (key : String) : lookup key other = lookup key entries := by
  have hother : (keys other).Nodup := ((h.map Prod.fst).nodup_iff).mpr hkeys
  cases hlookup : lookup key entries with
  | some v => exact lookup_of_mem hother (h.mem_iff.mpr (mem_of_lookup hlookup))
  | none =>
    cases hfound : lookup key other with
    | none => rfl
    | some v =>
      have hmem : (key, v) ∈ entries := h.mem_iff.mp (mem_of_lookup hfound)
      rw [lookup_of_mem hkeys hmem] at hlookup
      cases hlookup

end Association

namespace Json.Value

/-- Two values differ at most in the order of the members of objects, at any depth. -/
inductive Reordered : Value → Value → Prop
  | refl (v : Value) : Reordered v v
  | array (items : List (Value × Value)) (h : ∀ i ∈ items, Reordered i.1 i.2) :
      Reordered (.array (items.map Prod.fst)) (.array (items.map Prod.snd))
  | object (members : List (String × Value × Value)) (h : ∀ m ∈ members, Reordered m.2.1 m.2.2)
      {other : Members} (order : other.Perm (members.map fun m => (m.1, m.2.2))) :
      Reordered (.object (members.map fun m => (m.1, m.2.1))) (.object other)

/-- Values that differ in the order of members have one outline: they are one value, or arrays of
one length, or objects of one length. -/
inductive SameOutline : Value → Value → Prop
  | refl (v : Value) : SameOutline v v
  | array {items other : List Value} (h : items.length = other.length) :
      SameOutline (.array items) (.array other)
  | object {members other : Members} (h : members.length = other.length) :
      SameOutline (.object members) (.object other)

namespace Reordered

variable {v w : Value}

/-- The order of members is no part of the outline of a value. -/
theorem sameOutline (h : Reordered v w) : SameOutline v w := by
  cases h with
  | refl => exact .refl _
  | array items _ => exact .array (by simp)
  | object members _ order => exact .object (by simp [order.length_eq])

/-- Keys stay distinct in another order. -/
theorem keysDistinct (h : Reordered v w) (hv : v.KeysDistinct) : w.KeysDistinct := by
  induction h with
  | refl => exact hv
  | array items _ ih =>
    simp only [keysDistinct_array, List.forall_mem_map] at hv ⊢
    exact fun i hi => ih i hi (hv i hi)
  | object members _ order ih =>
    rw [keysDistinct_object] at hv ⊢
    obtain ⟨hkeys, hvalues⟩ := hv
    constructor
    · have hperm := order.map Prod.fst
      rw [List.map_map] at hperm
      simp only [Association.keys, List.map_map] at hkeys
      exact hperm.nodup_iff.mpr hkeys
    · intro m hm
      obtain ⟨n, hn, rfl⟩ := List.mem_map.mp (order.mem_iff.mp hm)
      exact ih n hn (hvalues _ (List.mem_map_of_mem (f := fun m => (m.1, m.2.1)) hn))

/-- The items of two arrays are equal to those of a third alike, if item for item they are equal
to the same values. -/
theorem sameItems_eq {items : List (Value × Value)}
    (h : ∀ i ∈ items, ∀ u : Value, u.same i.1 = u.same i.2) (others : List Value) :
    sameItems others (items.map Prod.fst) = sameItems others (items.map Prod.snd) := by
  induction items generalizing others with
  | nil => rfl
  | cons i rest ih =>
    obtain ⟨hi, hrest⟩ := List.forall_mem_cons.mp h
    cases others with
    | nil => simp [sameItems]
    | cons u others => simp [sameItems, hi u, ih hrest others]

/-- Members are bound in two objects alike that bind the same keys to values which are equal to the
same values. -/
theorem boundIn_eq {members : List (String × Value × Value)} {other : Members}
    (hkeys : (members.map Prod.fst).Nodup) (order : other.Perm (members.map fun m => (m.1, m.2.2)))
    (h : ∀ m ∈ members, ∀ u : Value, u.same m.2.1 = u.same m.2.2) (bound : Members) :
    boundIn bound (members.map fun m => (m.1, m.2.1)) = boundIn bound other := by
  have hkeys' : (Association.keys (members.map fun m => (m.1, m.2.2))).Nodup := by
    simpa [Association.keys, Function.comp_def] using hkeys
  induction bound with
  | nil => simp [boundIn]
  | cons entry rest ih =>
    obtain ⟨key, u⟩ := entry
    rw [boundIn, boundIn, ih, Association.lookup_of_perm hkeys' order,
      Association.lookup_map Prod.fst, Association.lookup_map Prod.snd]
    cases hlookup : Association.lookup key members with
    | none => rfl
    | some pair => simp [h _ (Association.mem_of_lookup hlookup) u]

/-- Equality of values does not look at the order of members. -/
theorem same_eq (h : Reordered v w) (hv : v.KeysDistinct) (u : Value) : u.same v = u.same w := by
  induction h generalizing u with
  | refl => rfl
  | array items _ ih =>
    simp only [keysDistinct_array, List.forall_mem_map] at hv
    cases u with
    | array others => simpa [same] using sameItems_eq (fun i hi => ih i hi (hv i hi)) others
    | _ => simp [same]
  | object members _ order ih =>
    obtain ⟨hkeys, hvalues⟩ := keysDistinct_object.mp hv
    simp only [Association.keys, List.map_map, List.forall_mem_map] at hkeys hvalues
    have hvalue : ∀ m ∈ members, ∀ u : Value, u.same m.2.1 = u.same m.2.2 :=
      fun m hm => ih m hm (hvalues m hm)
    cases u with
    | object bound =>
      simp only [same, List.length_map, order.length_eq, boundIn_eq hkeys order hvalue]
    | _ => simp [same]

/-- A value is listed whatever the order of its members. -/
theorem memberOf_eq (h : Reordered v w) (hv : v.KeysDistinct) (values : List Value) :
    v.memberOf values = w.memberOf values := by
  simp only [memberOf, h.same_eq hv]

end Reordered

end Json.Value

end Rulebook
