import Rulebook.Proofs.Description.Steps

/-!
# What is read for children

A table that is read has elements with distinct keys and a policy for other keys, and each of its
elements is read from a member of the description. A list that is read has bounds with room between
them.
-/

namespace Rulebook

open Json (Value Members)

/-! ## Tables -/

/-- A list of keys that is read has each key once, and no declared one. -/
theorem keysOf_spec {name : String} {declared known keys : List String} {items : List Value}
    (h : keysOf name declared known items = .ok keys) (hnodup : known.Nodup)
    (hknown : ∀ key ∈ known, key ∉ declared) :
    keys.Nodup ∧ ∀ key ∈ keys, key ∉ declared := by
  induction items generalizing known with
  | nil =>
    obtain rfl := Except.ok.inj h
    exact ⟨hnodup, hknown⟩
  | cons item rest ih =>
    cases item with
    | string key =>
      rw [keysOf] at h
      split at h
      · cases h
      · next hfresh =>
        have hundeclared : key ∉ declared := by simpa using hfresh
        split at h
        · exact ih h hnodup hknown
        · next hnew =>
          have hnew : key ∉ known := by simpa using hnew
          refine ih h ?_ ?_
          · rw [List.nodup_append]
            refine ⟨hnodup, by simp, fun k hk other hother => ?_⟩
            rw [List.mem_singleton.mp hother]
            exact fun heq => hnew (heq ▸ hk)
          · simpa [or_imp, forall_and, hundeclared] using hknown
    | _ => cases h

/-- A list of keys that counts lists undeclared keys. -/
theorem keyList?_spec {name : String} {declared keys : List String} {setting : Option Value}
    (h : keyList? name declared setting = .ok (some keys)) : UndeclaredKeys declared keys := by
  unfold keyList? at h
  split at h
  · cases h
  · split at h
    · cases h
    · next hnonempty hkeys =>
      obtain rfl := Option.some.inj (Except.ok.inj h)
      obtain ⟨hnodup, hundeclared⟩ := keysOf_spec hkeys List.nodup_nil (by simp)
      exact ⟨hnonempty, hnodup, hundeclared⟩
    · cases h
  · cases h

/-- The policy that is set is about the keys that are listed. -/
theorem Membership.fits_of_settings {declared : List String} {exclusive : Bool}
    {whitelist blacklist : Option (List String)} {m : Membership}
    (h : Membership.ofSettings? exclusive whitelist blacklist = some m)
    (hwhitelist : ∀ keys, whitelist = some keys → UndeclaredKeys declared keys)
    (hblacklist : ∀ keys, blacklist = some keys → UndeclaredKeys declared keys) :
    m.Fits declared := by
  unfold Membership.ofSettings? at h
  split at h
  · obtain rfl := Option.some.inj h
    trivial
  · obtain rfl := Option.some.inj h
    trivial
  · obtain rfl := Option.some.inj h
    exact hwhitelist _ rfl
  · obtain rfl := Option.some.inj h
    exact hblacklist _ rfl
  · cases h

/-- The flag beside declared elements, off if it is left out. -/
def exclusiveFlag (members : Members) : Except DefinitionFault Bool :=
  match Association.lookup "exclusive" members with
  | none => .ok false
  | some v => flagOf "exclusive" v

/-- The policy of a table is what its flag and its lists set. -/
theorem Membership.ofMembers_ok_iff {declared : List String} {members : Members}
    {m : Membership} :
    Membership.ofMembers declared members = .ok m ↔
      ∃ exclusive whitelist blacklist, exclusiveFlag members = .ok exclusive ∧
        keyList? "whitelist" declared (Association.lookup "whitelist" members) = .ok whitelist ∧
        keyList? "blacklist" declared (Association.lookup "blacklist" members) = .ok blacklist ∧
        Membership.ofSettings? exclusive whitelist blacklist = some m := by
  unfold Membership.ofMembers exclusiveFlag
  constructor
  · intro h
    cases hlookup : Association.lookup "exclusive" members <;> rw [hlookup] at h <;>
      simp only [bind_ok_iff] at h <;>
      obtain ⟨exclusive, hexclusive, whitelist, hwhitelist, blacklist, hblacklist, h⟩ := h
    all_goals
      split at h
      · next hset =>
        obtain rfl := Except.ok.inj h
        exact ⟨exclusive, whitelist, blacklist, hexclusive, hwhitelist, hblacklist, hset⟩
      · cases h
  · rintro ⟨exclusive, whitelist, blacklist, hexclusive, hwhitelist, hblacklist, hset⟩
    cases hlookup : Association.lookup "exclusive" members <;> rw [hlookup] at hexclusive
    all_goals
      refine bind_ok_iff.mpr ⟨exclusive, hexclusive, bind_ok_iff.mpr ⟨whitelist, hwhitelist, ?_⟩⟩
      refine bind_ok_iff.mpr ⟨blacklist, hblacklist, ?_⟩
      rw [hset]

/-- The policy of a table lists undeclared keys only. -/
theorem Membership.ofMembers_spec {declared : List String} {members : Members} {m : Membership}
    (h : Membership.ofMembers declared members = .ok m) : m.Fits declared := by
  obtain ⟨exclusive, whitelist, blacklist, _, hwhitelist, hblacklist, hset⟩ :=
    Membership.ofMembers_ok_iff.mp h
  refine Membership.fits_of_settings hset ?_ ?_
  · rintro keys rfl
    exact keyList?_spec hwhitelist
  · rintro keys rfl
    exact keyList?_spec hblacklist

/-- Each element that is read comes from a member, in order. -/
theorem readElements_spec {read : RulesetReader} {place : Location} {members : Members}
    {elements : List (String × Ruleset)} (h : readElements read place members = .ok elements) :
    Association.keys elements = Association.keys members ∧
      ∀ e ∈ elements, ∃ v, (e.1, v) ∈ members ∧ read v (place.element e.1) = .ok e.2 := by
  induction members generalizing elements with
  | nil =>
    obtain rfl := Except.ok.inj h
    simp [Association.keys]
  | cons m rest ih =>
    simp only [readElements, bind_ok_iff] at h
    obtain ⟨r, hr, others, hothers, h⟩ := h
    obtain rfl := Except.ok.inj h
    obtain ⟨hkeys, hread⟩ := ih hothers
    constructor
    · simpa [Association.keys] using hkeys
    · refine List.forall_mem_cons.mpr ⟨⟨m.2, List.mem_cons_self, hr⟩, fun e he => ?_⟩
      obtain ⟨v, hv, hread⟩ := hread e he
      exact ⟨v, List.mem_cons_of_mem _ hv, hread⟩

/-- The members that declare elements are the object itself or a member of it. -/
theorem elementMembers_keysDistinct {members declared : Members}
    (h : elementMembers members = .ok declared)
    (hmembers : (Value.object members).KeysDistinct) :
    (Value.object declared).KeysDistinct := by
  unfold elementMembers at h
  split at h
  · split at h
    · cases h
    · split at h
      · next helements =>
        obtain rfl := Except.ok.inj h
        exact hmembers.of_lookup helements
      · cases h
      · cases h
  · obtain rfl := Except.ok.inj h
    exact hmembers

/-- A table that is read is sound, and its elements are read from values with distinct keys. -/
theorem TableElements.ofDescription_spec {read : RulesetReader} {place : Location} {v : Value}
    {t : TableElements Ruleset} (hv : v.KeysDistinct)
    (h : TableElements.ofDescription read place v = .ok t) :
    t.Sound ∧ ∀ e ∈ t.elements, ∃ w place, w.KeysDistinct ∧ read w place = .ok e.2 := by
  unfold TableElements.ofDescription at h
  split at h
  · next members =>
    simp only [bind_ok_iff, located_ok_iff] at h
    obtain ⟨declared, hdeclared, h⟩ := h
    split at h
    · cases h
    · next hnonempty =>
      simp only [bind_ok_iff, located_ok_iff] at h
      obtain ⟨elements, helements, membership, hmembership, h⟩ := h
      obtain rfl := Except.ok.inj h
      obtain ⟨hkeys, hread⟩ := readElements_spec helements
      have hdistinct := elementMembers_keysDistinct hdeclared hv
      obtain ⟨hnodup, hvalues⟩ := Value.keysDistinct_object.mp hdistinct
      rw [← hkeys] at hnodup
      refine ⟨⟨?_, hnodup, ?_⟩, fun e he => ?_⟩
      · rintro rfl
        simp [Association.keys] at hkeys
        simp [hkeys] at hnonempty
      · split at hmembership
        · exact Membership.ofMembers_spec hmembership
        · obtain rfl := Except.ok.inj hmembership
          trivial
      · obtain ⟨w, hw, hread⟩ := hread e he
        exact ⟨w, _, hvalues _ hw, hread⟩
  · cases h

/-! ## Lists -/

/-- A bound on the number of items that is read can be written as a number. -/
theorem occurrenceOf_spec {name : String} {setting : Option Value} {n : Nat}
    (h : occurrenceOf name setting = .ok n) : IsCount n := by
  unfold occurrenceOf at h
  split at h
  · obtain rfl := Except.ok.inj h
    exact isCount_zero
  · split at h
    · next hcount =>
      obtain rfl := Except.ok.inj h
      unfold Value.count? Json.Number.unsigned64? at hcount
      split at hcount
      · split at hcount
        · split at hcount
          · next hbounds =>
            obtain rfl := Option.some.inj hcount
            simp only [IsCount]
            omega
          · cases hcount
        · cases hcount
      · cases hcount
    · cases h

/-- The bounds that are read leave room between them. -/
theorem occurrences_spec {α : Type} {members : Members} {least : Nat} {most : Option Nat}
    (h : occurrences members = .ok (least, most)) (a : α) : ListItems.Sound ⟨least, most, a⟩ := by
  simp only [occurrences, bind_ok_iff] at h
  obtain ⟨least, hleast, most, hmost, h⟩ := h
  have hleast := occurrenceOf_spec hleast
  split at h
  · obtain ⟨rfl, rfl⟩ := Prod.mk.inj (Except.ok.inj h)
    exact ⟨hleast, by simp⟩
  · next hne =>
    split at h
    · cases h
    · next hle =>
      obtain ⟨rfl, rfl⟩ := Prod.mk.inj (Except.ok.inj h)
      refine ⟨hleast, fun bound hbound => ?_⟩
      obtain rfl := Option.some.inj hbound
      exact ⟨occurrenceOf_spec hmost, hne, Nat.le_of_not_lt hle⟩

/-- The description of the items, with the bounds on their number, is in that of the list. -/
theorem itemDescription_spec {v w : Value} {least : Nat} {most : Option Nat}
    (hv : v.KeysDistinct) (h : itemDescription v = .ok (w, least, most)) {α : Type} (a : α) :
    w.KeysDistinct ∧ ListItems.Sound ⟨least, most, a⟩ := by
  have hunbounded : ListItems.Sound ⟨0, none, a⟩ := ⟨isCount_zero, by simp⟩
  unfold itemDescription at h
  split at h
  · split at h
    · unfold itemSettings at h
      split at h
      · cases h
      · split at h
        · cases h
        · next hitems =>
          split at h
          · next hbounds =>
            obtain ⟨rfl, rfl⟩ := Prod.mk.inj (Except.ok.inj h)
            exact ⟨hv.of_lookup hitems, occurrences_spec hbounds a⟩
          · cases h
    · obtain ⟨rfl, hbounds⟩ := Prod.mk.inj (Except.ok.inj h)
      obtain ⟨rfl, rfl⟩ := Prod.mk.inj hbounds
      exact ⟨hv, hunbounded⟩
  · obtain ⟨rfl, hbounds⟩ := Prod.mk.inj (Except.ok.inj h)
    obtain ⟨rfl, rfl⟩ := Prod.mk.inj hbounds
    exact ⟨hv, hunbounded⟩

/-- A list that is read is sound, and what it declares for its items is read from a value with
distinct keys. -/
theorem ListItems.ofDescription_spec {read : RulesetReader} {place : Location} {v : Value}
    {l : ListItems Ruleset} (hv : v.KeysDistinct)
    (h : ListItems.ofDescription read place v = .ok l) :
    l.Sound ∧ ∃ w place, w.KeysDistinct ∧ read w place = .ok l.itemRules := by
  simp only [ListItems.ofDescription, bind_ok_iff, located_ok_iff] at h
  obtain ⟨⟨w, least, most⟩, hdescription, rules, hread, h⟩ := h
  obtain rfl := Except.ok.inj h
  obtain ⟨hw, hsound⟩ := itemDescription_spec hv hdescription rules
  exact ⟨hsound, w, _, hw, hread⟩

end Rulebook
