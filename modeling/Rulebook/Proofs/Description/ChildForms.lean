import Rulebook.Proofs.Description.Children
import Rulebook.Proofs.Description.Forms

/-!
# Tables and lists that are read

A table is read if it declares elements that are read, beside a policy for other keys, and a list is
read if it has a description of items that is read, beside bounds with room between them. How
descriptions below are read is a parameter here.
-/

namespace Rulebook

open Json (Value Members)

/-! ## Keys of objects -/

/-- An object has none of some keys. -/
theorem hasAnyKey_eq_false_iff {keys : List String} {members : Members} :
    hasAnyKey keys members = false ↔ ∀ key ∈ keys, key ∉ Association.keys members := by
  simp [hasAnyKey, ← Association.isSome_lookup_iff]

/-- An object that binds one of some keys has one. -/
theorem hasAnyKey_of_lookup {keys : List String} {members : Members} {key : String} {v : Value}
    (hkey : key ∈ keys) (h : Association.lookup key members = some v) :
    hasAnyKey keys members = true := by
  simp only [hasAnyKey, List.any_eq_true]
  exact ⟨key, hkey, by rw [h]; rfl⟩

/-- No key is unexpected if all are known. -/
theorem unexpectedKey?_eq_none_iff {allowed : List String} {members : Members} :
    unexpectedKey? allowed members = none ↔ ∀ key ∈ Association.keys members, key ∈ allowed := by
  simp [unexpectedKey?]

/-! ## Tables -/

/-- A list of undeclared keys is read. -/
theorem succeeds_keysOf_iff {name : String} {declared known : List String} {items : List Value} :
    Succeeds (keysOf name declared known items) ↔
      ∃ keys : List String, items = keys.map .string ∧ ∀ key ∈ keys, key ∉ declared := by
  induction items generalizing known with
  | nil => simp [keysOf]
  | cons item rest ih =>
    cases item with
    | string key =>
      rw [keysOf]
      by_cases hdeclared : key ∈ declared
      · simp only [List.contains_iff_mem, hdeclared, if_true, not_succeeds_error, false_iff]
        rintro ⟨_ | ⟨other, keys⟩, hitems, hundeclared⟩
        · cases hitems
        · obtain ⟨hkey, _⟩ := List.cons.inj hitems
          obtain rfl := Value.string.inj hkey
          exact hundeclared key List.mem_cons_self hdeclared
      · simp only [List.contains_iff_mem, hdeclared, if_false, ih]
        constructor
        · rintro ⟨keys, rfl, hundeclared⟩
          exact ⟨key :: keys, rfl, List.forall_mem_cons.mpr ⟨hdeclared, hundeclared⟩⟩
        · rintro ⟨_ | ⟨other, keys⟩, hitems, hundeclared⟩
          · cases hitems
          · obtain ⟨_, hrest⟩ := List.cons.inj hitems
            exact ⟨keys, hrest, (List.forall_mem_cons.mp hundeclared).2⟩
    | _ =>
      simp only [keysOf, not_succeeds_error, false_iff]
      rintro ⟨_ | ⟨other, keys⟩, hitems, _⟩
      · cases hitems
      · cases (List.cons.inj hitems).1

/-- No key is read from an empty list only. -/
theorem keysOf_eq_nil {name : String} {declared known keys : List String} {items : List Value}
    (h : keysOf name declared known items = .ok keys) : keys = [] ↔ known = [] ∧ items = [] := by
  induction items generalizing known with
  | nil =>
    obtain rfl := Except.ok.inj h
    simp
  | cons item rest ih =>
    cases item with
    | string key =>
      rw [keysOf] at h
      split at h
      · cases h
      · rw [ih h]
        split
        · next hknown =>
          have hsome : known ≠ [] := List.ne_nil_of_mem (List.contains_iff_mem.mp hknown)
          simp [hsome]
        · simp
    | _ => cases h

/-- A setting that is left out, or a list of undeclared keys, is read. -/
theorem succeeds_keyList?_iff {name : String} {declared : List String} {setting : Option Value} :
    Succeeds (keyList? name declared setting) ↔ ListsUndeclared declared setting := by
  unfold ListsUndeclared
  cases setting with
  | none => simp [keyList?]
  | some v =>
    cases v with
    | array items =>
      have hkeys : Succeeds (keyList? name declared (some (.array items))) ↔
          Succeeds (keysOf name declared [] items) := by
        rw [keyList?]
        split <;> simp [*]
      simp [hkeys, succeeds_keysOf_iff]
    | _ => simp [keyList?]

/-- A list of keys counts if it is in force. -/
theorem isSome_keyList?_iff {name : String} {declared : List String} {members : Members}
    {keys : Option (List String)}
    (h : keyList? name declared (Association.lookup name members) = .ok keys) :
    keys.isSome = true ↔ Activates members name := by
  unfold Activates
  cases hsetting : Association.lookup name members with
  | none =>
    rw [hsetting] at h
    obtain rfl := Except.ok.inj h
    simp
  | some v =>
    rw [hsetting] at h
    cases v with
    | array items =>
      rw [keyList?] at h
      split at h
      · next hread =>
        obtain rfl := Except.ok.inj h
        have hitems := ((keysOf_eq_nil hread).mp rfl).2
        simp [Value.InForce, hitems]
      · next hsome hread =>
        obtain rfl := Except.ok.inj h
        have hitems : items ≠ [] := fun hnil => hsome ((keysOf_eq_nil hread).mpr ⟨rfl, hnil⟩)
        simp [Value.InForce, hitems]
      · cases h
    | _ => cases h

/-- There is a policy if no two settings are in force. -/
theorem Membership.isSome_ofSettings?_iff {exclusive : Bool}
    {whitelist blacklist : Option (List String)} :
    (Membership.ofSettings? exclusive whitelist blacklist).isSome = true ↔
      ¬(exclusive = true ∧ whitelist.isSome = true) ∧
        ¬(exclusive = true ∧ blacklist.isSome = true) ∧
        ¬(whitelist.isSome = true ∧ blacklist.isSome = true) := by
  cases exclusive <;> cases whitelist <;> cases blacklist <;> simp [Membership.ofSettings?]

/-- The flag beside declared elements is read from a boolean. -/
theorem succeeds_exclusiveFlag_iff {members : Members} :
    Succeeds (exclusiveFlag members) ↔
      ∀ v, Association.lookup "exclusive" members = some v → ∃ b, v = .bool b := by
  unfold exclusiveFlag
  cases Association.lookup "exclusive" members <;> simp [succeeds_flagOf_iff]

/-- The flag beside declared elements is on if it is in force. -/
theorem eq_true_of_exclusiveFlag_iff {members : Members} {exclusive : Bool}
    (h : exclusiveFlag members = .ok exclusive) :
    exclusive = true ↔ Activates members "exclusive" := by
  unfold exclusiveFlag at h
  unfold Activates
  cases hsetting : Association.lookup "exclusive" members with
  | none =>
    rw [hsetting] at h
    obtain rfl := Except.ok.inj h
    simp
  | some v =>
    rw [hsetting] at h
    cases v with
    | bool b =>
      obtain rfl := Except.ok.inj h
      simp [Value.InForce]
    | _ => cases h

/-- A policy is read from settings of which no two are in force. -/
theorem Membership.succeeds_ofMembers_iff {declared : List String} {members : Members} :
    Succeeds (Membership.ofMembers declared members) ↔ SetsPolicy declared members := by
  constructor
  · rintro ⟨m, hm⟩
    obtain ⟨exclusive, whitelist, blacklist, hexclusive, hwhitelist, hblacklist, hset⟩ :=
      Membership.ofMembers_ok_iff.mp hm
    have hset := Option.isSome_iff_exists.mpr ⟨m, hset⟩
    rw [Membership.isSome_ofSettings?_iff, eq_true_of_exclusiveFlag_iff hexclusive,
      isSome_keyList?_iff hwhitelist, isSome_keyList?_iff hblacklist] at hset
    exact {
      exclusive := succeeds_exclusiveFlag_iff.mp ⟨_, hexclusive⟩
      whitelist := succeeds_keyList?_iff.mp ⟨_, hwhitelist⟩
      blacklist := succeeds_keyList?_iff.mp ⟨_, hblacklist⟩
      single := by simpa [and_assoc] using hset }
  · intro h
    obtain ⟨exclusive, hexclusive⟩ := succeeds_exclusiveFlag_iff.mpr h.exclusive
    obtain ⟨whitelist, hwhitelist⟩ := succeeds_keyList?_iff.mpr h.whitelist
    obtain ⟨blacklist, hblacklist⟩ := succeeds_keyList?_iff.mpr h.blacklist
    have hset : (Membership.ofSettings? exclusive whitelist blacklist).isSome = true := by
      rw [Membership.isSome_ofSettings?_iff, eq_true_of_exclusiveFlag_iff hexclusive,
        isSome_keyList?_iff hwhitelist, isSome_keyList?_iff hblacklist]
      simpa [and_assoc] using h.single
    obtain ⟨m, hm⟩ := Option.isSome_iff_exists.mp hset
    exact ⟨m, Membership.ofMembers_ok_iff.mpr
      ⟨exclusive, whitelist, blacklist, hexclusive, hwhitelist, hblacklist, hm⟩⟩

/-- The members of a table that declare its elements are those that it is asked for. -/
theorem declaresElements_iff {members elements : Members} :
    (Value.object members).DeclaresElements elements ↔
      elementMembers members = .ok elements ∧ elements ≠ [] ∧
        (hasAnyKey tableKeys members = true →
          SetsPolicy (Association.keys elements) members) := by
  unfold elementMembers
  constructor
  · rintro (⟨hnonempty, hunwrapped⟩ | ⟨hnonempty, hknown, hdeclared, hpolicy⟩)
    · rw [hasAnyKey_eq_false_iff.mpr hunwrapped]
      exact ⟨rfl, hnonempty, fun h => by cases h⟩
    · have hwrapped : hasAnyKey tableKeys members = true :=
        hasAnyKey_of_lookup (by decide) hdeclared
      rw [if_pos hwrapped, unexpectedKey?_eq_none_iff.mpr hknown, hdeclared]
      exact ⟨rfl, hnonempty, fun _ => hpolicy⟩
  · rintro ⟨hread, hnonempty, hpolicy⟩
    split at hread
    · next hwrapped =>
      split at hread
      · cases hread
      · next hexpected =>
        split at hread
        · next hdeclared =>
          obtain rfl := Except.ok.inj hread
          exact .wrapped hnonempty (unexpectedKey?_eq_none_iff.mp hexpected) hdeclared
            (hpolicy hwrapped)
        · cases hread
        · cases hread
    · next hplain =>
      obtain rfl := Except.ok.inj hread
      exact .plain hnonempty (hasAnyKey_eq_false_iff.mp (by simpa using hplain))

/-- A table declares its elements in one way. -/
theorem Json.Value.DeclaresElements.unique {v : Value} {elements others : Members}
    (h : v.DeclaresElements elements) (hothers : v.DeclaresElements others) :
    elements = others := by
  obtain ⟨members, rfl⟩ : ∃ members, v = .object members := by cases h <;> exact ⟨_, rfl⟩
  have hread := (declaresElements_iff.mp h).1
  rw [(declaresElements_iff.mp hothers).1] at hread
  exact (Except.ok.inj hread).symm

/-- A reader reads the values of a form, at every place, and no others. -/
def ReadsExactly (read : RulesetReader) (form : Value → Prop) : Prop :=
  ∀ v place, Succeeds (read v place) ↔ form v

section Children

variable {read : RulesetReader} {form : Value → Prop} {place : Location}

/-- Elements are read if each of them is. -/
theorem succeeds_readElements_iff (hread : ReadsExactly read form) (place : Location)
    {members : Members} : Succeeds (readElements read place members) ↔ ∀ m ∈ members, form m.2 := by
  induction members with
  | nil => simp [readElements]
  | cons m rest ih =>
    rw [List.forall_mem_cons, ← hread m.2 (place.element m.1), ← ih, readElements]
    simp only [succeeds_bind_iff, succeeds_ok, and_true]
    constructor
    · rintro ⟨r, hr, others, hothers⟩
      exact ⟨⟨r, hr⟩, others, hothers⟩
    · rintro ⟨⟨r, hr⟩, others, hothers⟩
      exact ⟨r, hr, others, hothers⟩

/-- A table is read if it declares elements that are read. -/
theorem TableElements.succeeds_ofDescription_iff (hread : ReadsExactly read form) {v : Value} :
    Succeeds (TableElements.ofDescription read place v) ↔
      ∃ elements, v.DeclaresElements elements ∧ ∀ e ∈ elements, form e.2 := by
  cases v with
  | object members =>
    simp only [declaresElements_iff, TableElements.ofDescription, succeeds_bind_iff,
      located_ok_iff, and_assoc]
    refine exists_congr fun declared => and_congr_right fun _ => ?_
    by_cases hempty : declared = []
    · simp [hempty]
    · have hpolicy (elements : List (String × Ruleset))
          (helements : readElements read place declared = .ok elements) :
          Succeeds (located place
              (if hasAnyKey tableKeys members then
                Membership.ofMembers (Association.keys elements) members
              else .ok .open)) ↔
            (hasAnyKey tableKeys members = true →
              SetsPolicy (Association.keys declared) members) := by
        rw [(readElements_spec helements).1, succeeds_located_iff]
        split <;> simp [*, Membership.succeeds_ofMembers_iff]
      rw [← succeeds_readElements_iff hread place]
      rw [if_neg (by simpa using hempty), succeeds_bind_iff]
      simp only [succeeds_bind_ok_iff]
      constructor
      · rintro ⟨elements, helements, hmembership⟩
        exact ⟨hempty, (hpolicy elements helements).mp hmembership, elements, helements⟩
      · rintro ⟨_, hset, elements, helements⟩
        exact ⟨elements, helements, (hpolicy elements helements).mpr hset⟩
  | _ =>
    simp only [TableElements.ofDescription, not_succeeds_error, false_iff]
    rintro ⟨_, ⟨⟩, _⟩

/-! ## Lists of items -/

/-- A value is a count if it is an integer that is not negative and fits 64 bits. -/
theorem count?_eq_some_iff {v : Value} {n : Nat} :
    v.count? = some n ↔ v = .number (.int n) ∧ (n : Int) < Json.Number.ceiling := by
  cases v with
  | number number =>
    cases number with
    | int i =>
      simp only [Value.count?, Json.Number.unsigned64?, Value.number.injEq,
        Json.Number.int.injEq]
      split
      · next hbounds =>
        rw [Option.some.injEq]
        omega
      · next hbounds =>
        simp only [reduceCtorEq, false_iff]
        omega
    | float x => simp [Value.count?, Json.Number.unsigned64?]
  | _ => simp [Value.count?]

/-- A bound that is read is the one that the members set. -/
theorem occurrenceOf_ok_iff {members : Members} {name : String} {n : Nat} :
    occurrenceOf name (Association.lookup name members) = .ok n ↔ SetsBound members name n := by
  unfold SetsBound occurrenceOf
  cases Association.lookup name members with
  | none => simp [eq_comm]
  | some v =>
    simp only [reduceCtorEq, false_and, false_or, Option.some.injEq, ← count?_eq_some_iff]
    split <;> simp [*]

/-- Bounds that leave room between them are read. -/
theorem succeeds_occurrences_iff {members : Members} :
    Succeeds (occurrences members) ↔ SetsBounds members := by
  simp only [occurrences, succeeds_bind_iff, occurrenceOf_ok_iff, SetsBounds]
  refine exists_congr fun least => ?_
  rw [← exists_and_left]
  refine exists_congr fun most => and_congr_right fun _ => and_congr_right fun _ => ?_
  split
  · simp [*]
  · split
    · simp [*]
    · simp [*]
      omega

/-- The description of items among known members is the one under its key. -/
theorem itemSettings_iff {members : Members} {w : Value} :
    (∃ bounds, itemSettings members = .ok (w, bounds)) ↔
      (∀ key ∈ Association.keys members, key ∈ listKeys) ∧
        Association.lookup "itemRules" members = some w ∧ SetsBounds members := by
  rw [← unexpectedKey?_eq_none_iff, ← succeeds_occurrences_iff, itemSettings]
  constructor
  · rintro ⟨bounds, hread⟩
    split at hread
    · cases hread
    · next hknown =>
      split at hread
      · cases hread
      · next hitems =>
        split at hread
        · next hbounds =>
          obtain ⟨rfl, _⟩ := Prod.mk.inj (Except.ok.inj hread)
          exact ⟨hknown, hitems, _, hbounds⟩
        · cases hread
  · rintro ⟨hknown, hitems, bounds, hbounds⟩
    rw [hknown, hitems, hbounds]
    exact ⟨bounds, rfl⟩

/-- The description of items is asked of a value that has one. -/
theorem itemDescription_iff {v w : Value} :
    (∃ bounds, itemDescription v = .ok (w, bounds)) ↔ v.DescribesItems w := by
  constructor
  · rintro ⟨bounds, hread⟩
    unfold itemDescription at hread
    split at hread
    · next members =>
      split at hread
      · obtain ⟨hknown, hitems, hbounds⟩ := itemSettings_iff.mp ⟨bounds, hread⟩
        exact .wrapped hknown hitems hbounds
      · next hplain =>
        obtain ⟨rfl, _⟩ := Prod.mk.inj (Except.ok.inj hread)
        refine .plain fun others heq => ?_
        obtain rfl := Value.object.inj heq
        exact hasAnyKey_eq_false_iff.mp (by simpa using hplain)
    · next hother =>
      obtain ⟨rfl, _⟩ := Prod.mk.inj (Except.ok.inj hread)
      exact .plain fun members heq => absurd heq (hother members)
  · rintro (hunwrapped | @⟨members, _, hknown, hitems, hbounds⟩)
    · cases v with
      | object members =>
        have hplain := hasAnyKey_eq_false_iff.mpr (hunwrapped members rfl)
        exact ⟨_, by rw [itemDescription, hplain]; rfl⟩
      | _ => exact ⟨_, rfl⟩
    · have hwrapped : hasAnyKey listKeys members = true :=
        hasAnyKey_of_lookup (by decide) hitems
      rw [itemDescription, if_pos hwrapped]
      exact itemSettings_iff.mpr ⟨hknown, hitems, hbounds⟩

/-- The description of items is found in one way. -/
theorem Json.Value.DescribesItems.unique {v w other : Value} (h : v.DescribesItems w)
    (hother : v.DescribesItems other) : w = other := by
  obtain ⟨bounds, hread⟩ := itemDescription_iff.mpr h
  obtain ⟨_, hother⟩ := itemDescription_iff.mpr hother
  rw [hread] at hother
  exact (Prod.mk.inj (Except.ok.inj hother)).1

/-- A list is read if it has a description of items that is read. -/
theorem ListItems.succeeds_ofDescription_iff (hread : ReadsExactly read form) {v : Value} :
    Succeeds (ListItems.ofDescription read place v) ↔ ∃ w, v.DescribesItems w ∧ form w := by
  simp only [ListItems.ofDescription, succeeds_bind_iff, located_ok_iff, ← itemDescription_iff]
  constructor
  · rintro ⟨⟨w, bounds⟩, hdescription, rules, hrules, _⟩
    exact ⟨w, ⟨bounds, hdescription⟩, (hread w _).mp ⟨rules, hrules⟩⟩
  · rintro ⟨w, ⟨bounds, hdescription⟩, hform⟩
    obtain ⟨rules, hrules⟩ := (hread w place.everyItem).mpr hform
    exact ⟨(w, bounds), hdescription, rules, hrules, succeeds_ok _⟩

end Children

end Rulebook
