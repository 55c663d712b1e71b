import Rulebook.Proofs.Description.Children
import Rulebook.Proofs.Ruleset.Plain

/-!
# Reading the descriptions of children

The description of a sound table or list is read back as the table or list, with what the reader
makes of the descriptions of the rulesets in it.
-/

namespace Rulebook

open Json (Value Members)

/-! ## Tables -/

/-- A list of new keys is read from their description. -/
theorem keysOf_strings (name : String) (known : List String) {declared keys : List String}
    (hnodup : (known ++ keys).Nodup) (hkeys : ∀ key ∈ keys, key ∉ declared) :
    keysOf name declared known (keys.map Value.string) = .ok (known ++ keys) := by
  induction keys generalizing known with
  | nil => simp [keysOf]
  | cons key rest ih =>
    obtain ⟨hkey, hrest⟩ := List.forall_mem_cons.mp hkeys
    have hnew : key ∉ known := fun hmem =>
      (List.nodup_append.mp hnodup).2.2 key hmem key List.mem_cons_self rfl
    have hsplit : known ++ key :: rest = known ++ [key] ++ rest := by simp
    rw [hsplit] at hnodup ⊢
    simpa [keysOf, hkey, hnew] using ih _ hnodup hrest

/-- A list of undeclared keys is read from its description. -/
theorem keyList?_strings (name : String) {declared keys : List String}
    (h : UndeclaredKeys declared keys) :
    keyList? name declared (some (.array (keys.map Value.string))) = .ok (some keys) := by
  have hread := keysOf_strings name [] h.nodup h.undeclared
  cases keys with
  | nil => exact absurd rfl h.nonempty
  | cons key rest =>
    simp only [keyList?]
    rw [hread]
    rfl

/-- A policy is read from its members. -/
theorem Membership.ofMembers_members (elements : Value) {declared : List String} {m : Membership}
    (h : m.Fits declared) :
    Membership.ofMembers declared (("rulesByElements", elements) :: m.members) = .ok m := by
  cases m with
  | «open» | exclusive => rfl
  | whitelist keys =>
    have hread := keyList?_strings "whitelist" h
    refine bind_ok_iff.mpr ⟨false, rfl, bind_ok_iff.mpr ⟨some keys, hread, ?_⟩⟩
    rfl
  | blacklist keys =>
    have hread := keyList?_strings "blacklist" h
    refine bind_ok_iff.mpr ⟨false, rfl, bind_ok_iff.mpr ⟨none, rfl, ?_⟩⟩
    exact bind_ok_iff.mpr ⟨some keys, hread, rfl⟩

/-- The elements of a table are found in its description. -/
theorem elementMembers_members (m : Membership) (elements : Members) :
    elementMembers (("rulesByElements", .object elements) :: m.members) = .ok elements := by
  cases m <;> rfl

/-- Elements are read one by one. -/
theorem readElements_eq {read : RulesetReader} {place : Location} {describe : Ruleset → Value}
    {back : Ruleset → Ruleset} {elements : List (String × Ruleset)}
    (h : ∀ e ∈ elements, read (describe e.2) (place.element e.1) = .ok (back e.2)) :
    readElements read place (elements.map fun e => (e.1, describe e.2)) =
      .ok (elements.map fun e => (e.1, back e.2)) := by
  induction elements with
  | nil => rfl
  | cons e rest ih =>
    obtain ⟨he, hrest⟩ := List.forall_mem_cons.mp h
    simp [readElements, he, ih hrest, bind, Except.bind]

/-- A sound table is read from its description, each element as it is read. -/
theorem TableElements.ofDescription_toJson {read : RulesetReader} {place : Location}
    {describe : Ruleset → Value} {back : Ruleset → Ruleset} {t : TableElements Ruleset}
    (ht : t.Sound)
    (h : ∀ e ∈ t.elements, read (describe e.2) (place.element e.1) = .ok (back e.2)) :
    TableElements.ofDescription read place (t.toJson describe) = .ok (t.map back) := by
  have hnonempty : (t.elements.map fun e => (e.1, describe e.2)).isEmpty = false := by
    simpa using ht.nonempty
  have hwrapped (elements : Value) :
      hasAnyKey tableKeys (("rulesByElements", elements) :: t.membership.members) = true := by
    simp [hasAnyKey, tableKeys, Association.lookup]
  have hkeys : Association.keys (t.elements.map fun e => (e.1, back e.2)) = t.keys := by
    simp [Association.keys, TableElements.keys]
  have hmembership := Membership.ofMembers_members
    (.object (t.elements.map fun e => (e.1, describe e.2))) ht.membership
  refine bind_ok_iff.mpr ⟨_, located_ok_iff.mpr (elementMembers_members _ _), ?_⟩
  rw [hnonempty]
  refine bind_ok_iff.mpr ⟨_, readElements_eq h, ?_⟩
  refine bind_ok_iff.mpr ⟨t.membership, located_ok_iff.mpr ?_, rfl⟩
  rw [if_pos (hwrapped _), hkeys]
  exact hmembership

/-! ## Lists -/

/-- A count is read as a bound on the number of items. -/
theorem occurrenceOf_count {name : String} {v : Value} {n : Nat} (h : v.count? = some n) :
    occurrenceOf name (some v) = .ok n := by
  simp [occurrenceOf, h]

/-- A bound on the number of items is read from its member, and zero from no member. -/
theorem occurrenceOf_member {name : String} {n : Nat} (h : IsCount n) :
    occurrenceOf name (Association.lookup name (occurrenceMember name n)) = .ok n := by
  by_cases hzero : n = 0
  · simp [occurrenceMember, hzero, Association.lookup, occurrenceOf]
  · simp only [occurrenceMember, hzero, Association.lookup, if_true, if_false]
    exact occurrenceOf_count (count?_of_isCount h)

/-- Bounds on the number of items are read from their members. -/
theorem occurrences_members {α : Type} {l : ListItems α} (hl : l.Sound) (v : Value) :
    occurrences (("itemRules", v) :: (occurrenceMember "minOccur" l.minOccur
      ++ occurrenceMember "maxOccur" (l.maxOccur.getD 0))) = .ok (l.minOccur, l.maxOccur) := by
  have hleast (bound : Nat) : Association.lookup "minOccur" (("itemRules", v) ::
      (occurrenceMember "minOccur" l.minOccur ++ occurrenceMember "maxOccur" bound)) =
      Association.lookup "minOccur" (occurrenceMember "minOccur" l.minOccur) := by
    unfold occurrenceMember
    split <;> split <;> simp [Association.lookup]
  have hmost (bound : Nat) : Association.lookup "maxOccur" (("itemRules", v) ::
      (occurrenceMember "minOccur" l.minOccur ++ occurrenceMember "maxOccur" bound)) =
      Association.lookup "maxOccur" (occurrenceMember "maxOccur" bound) := by
    unfold occurrenceMember
    split <;> split <;> simp [Association.lookup]
  have hcount : IsCount (l.maxOccur.getD 0) := by
    cases hbound : l.maxOccur with
    | none => exact isCount_zero
    | some bound => exact (hl.most bound hbound).1
  unfold occurrences
  rw [hleast, hmost, occurrenceOf_member hl.least, occurrenceOf_member hcount]
  cases hbound : l.maxOccur with
  | none => rfl
  | some bound =>
    obtain ⟨_, hne, hle⟩ := hl.most bound hbound
    simp [bind, Except.bind, hne, Nat.not_lt.mpr hle]

/-- A sound list is read from its description, the rules for items as they are read. -/
theorem ListItems.ofDescription_toJson {read : RulesetReader} {place : Location}
    {describe : Ruleset → Value} {back : Ruleset → Ruleset} {l : ListItems Ruleset}
    (hl : l.Sound) (h : read (describe l.itemRules) place.everyItem = .ok (back l.itemRules)) :
    ListItems.ofDescription read place (l.toJson describe) = .ok (l.map back) := by
  have hdescription : itemDescription (l.toJson describe) =
      .ok (describe l.itemRules, l.minOccur, l.maxOccur) := by
    have hwrapped (members : Members) :
        hasAnyKey listKeys (("itemRules", describe l.itemRules) :: members) = true := by
      simp [hasAnyKey, listKeys, Association.lookup]
    have hexpected (least most : Nat) :
        unexpectedKey? listKeys (("itemRules", describe l.itemRules) ::
          (occurrenceMember "minOccur" least ++ occurrenceMember "maxOccur" most)) = none := by
      unfold occurrenceMember
      split <;> split <;> simp [unexpectedKey?, listKeys, Association.keys]
    simp only [ListItems.toJson, itemDescription, hwrapped, if_true, itemSettings, hexpected,
      occurrences_members hl, Association.lookup]
  refine bind_ok_iff.mpr ⟨_, located_ok_iff.mpr hdescription, ?_⟩
  exact bind_ok_iff.mpr ⟨_, h, rfl⟩

end Rulebook
