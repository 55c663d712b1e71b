import Rulebook.Json.Value

/-!
# Values with distinct keys

The reader of JSON binds no key of an object twice. A value without such objects is equal to itself;
one with them need not be.
-/

namespace Rulebook.Json

/-- A number is the same as itself. -/
theorem Number.same_self (n : Number) : n.same n = true := by
  cases n with
  | int i => simp [same]
  | float x => simp [same, Binary64.sameNumber, Binary64.compare]

namespace Value

mutual

/-- No object in a value binds a key twice. -/
def KeysDistinct : Value → Prop
  | .array items => ItemsKeysDistinct items
  | .object members => (Association.keys members).Nodup ∧ MembersKeysDistinct members
  | _ => True

/-- No object in the items of a list binds a key twice. -/
def ItemsKeysDistinct : List Value → Prop
  | [] => True
  | v :: rest => v.KeysDistinct ∧ ItemsKeysDistinct rest

/-- No object in the values of members binds a key twice. -/
def MembersKeysDistinct : Members → Prop
  | [] => True
  | (_, v) :: rest => v.KeysDistinct ∧ MembersKeysDistinct rest

end

/-- The items of a list with distinct keys have distinct keys. -/
theorem itemsKeysDistinct_iff {items : List Value} :
    ItemsKeysDistinct items ↔ ∀ v ∈ items, v.KeysDistinct := by
  induction items with
  | nil => simp [ItemsKeysDistinct]
  | cons v rest ih => simp [ItemsKeysDistinct, ih]

/-- The values of members with distinct keys have distinct keys. -/
theorem membersKeysDistinct_iff {members : Members} :
    MembersKeysDistinct members ↔ ∀ m ∈ members, m.2.KeysDistinct := by
  induction members with
  | nil => simp [MembersKeysDistinct]
  | cons m rest ih => simp [MembersKeysDistinct, ih]

/-- A list has distinct keys if its items have. -/
@[simp]
theorem keysDistinct_array {items : List Value} :
    (Value.array items).KeysDistinct ↔ ∀ v ∈ items, v.KeysDistinct := by
  rw [KeysDistinct, itemsKeysDistinct_iff]

/-- An object has distinct keys if its own keys are distinct, and those in its members. -/
@[simp]
theorem keysDistinct_object {members : Members} :
    (Value.object members).KeysDistinct ↔
      (Association.keys members).Nodup ∧ ∀ m ∈ members, m.2.KeysDistinct := by
  rw [KeysDistinct, membersKeysDistinct_iff]

/-- What an object with distinct keys binds a key to has distinct keys. -/
theorem KeysDistinct.of_lookup {members : Members} (h : (Value.object members).KeysDistinct)
    {key : String} {v : Value} (hlookup : Association.lookup key members = some v) :
    v.KeysDistinct :=
  (keysDistinct_object.mp h).2 _ (Association.mem_of_lookup hlookup)

mutual

/-- A value with distinct keys is equal to itself. -/
theorem same_self (v : Value) (h : v.KeysDistinct) : v.same v = true := by
  cases v with
  | null => rfl
  | bool b => simp [same]
  | number n => simpa [same] using n.same_self
  | string s => simp [same]
  | array items =>
    rw [same]
    exact sameItems_self items (keysDistinct_array.mp h)
  | object members =>
    obtain ⟨hkeys, hvalues⟩ := keysDistinct_object.mp h
    rw [same, beq_self_eq_true, Bool.true_and]
    exact boundIn_of_subset members members hvalues fun m hm =>
      Association.lookup_of_mem hkeys hm

/-- Values with distinct keys are a list equal to itself. -/
theorem sameItems_self (items : List Value) (h : ∀ v ∈ items, v.KeysDistinct) :
    sameItems items items = true := by
  cases items with
  | nil => rfl
  | cons v rest =>
    obtain ⟨hv, hrest⟩ := List.forall_mem_cons.mp h
    rw [sameItems, same_self v hv, sameItems_self rest hrest]
    rfl

/-- Members with distinct keys are bound in an object that binds them. -/
theorem boundIn_of_subset (members other : Members) (h : ∀ m ∈ members, m.2.KeysDistinct)
    (hother : ∀ m ∈ members, Association.lookup m.1 other = some m.2) :
    boundIn members other = true := by
  match members with
  | [] => rfl
  | (key, v) :: rest =>
    obtain ⟨hv, hrest⟩ := List.forall_mem_cons.mp h
    obtain ⟨hlookup, hothers⟩ := List.forall_mem_cons.mp hother
    rw [boundIn, hlookup]
    simp only [same_self v hv, boundIn_of_subset rest other hrest hothers, Bool.and_self]

end

end Value

end Rulebook.Json
