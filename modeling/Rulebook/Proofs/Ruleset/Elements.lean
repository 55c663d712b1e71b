import Rulebook.Proofs.Ruleset.Building
import Rulebook.Proofs.Ruleset.Plain

/-!
# Declaring elements

A table in which a key is declared, or declared anew, differs from the one before in that element
only. Its policy is asked for other keys as before, since a list that runs empty gives way to the
policy that says the same of all undeclared keys.
-/

namespace Rulebook

open Json (Value)

/-! ## Equality of tables -/

namespace Ruleset

/-- No object in the arguments or the values of a ruleset binds a key twice, and its table declares
none twice. -/
structure OwnKeysDistinct (r : Ruleset) : Prop where
  arguments : ∀ q ∈ r.rules, ∀ v ∈ q.arguments.values, v.KeysDistinct
  alternativeEnum : ∀ values, r.alternativeEnum = some values → ∀ v ∈ values, v.KeysDistinct
  table : ∀ t, r.tableElements = some t → t.keys.Nodup

/-- Nothing in a ruleset binds a key twice. -/
def KeysDistinct (r : Ruleset) : Prop := r.Everywhere OwnKeysDistinct

end Ruleset

namespace TableElements

variable {t u : TableElements Ruleset}

/-- Equality of tables: one policy and the same elements, in whatever order. -/
def same (t u : TableElements Ruleset) : Bool :=
  t.elements.length == u.elements.length && Ruleset.boundIn t.elements u.elements
    && t.membership.same u.membership

/-- A table declares no key twice, nor does anything in its elements bind one twice. -/
structure KeysDistinct (t : TableElements Ruleset) : Prop where
  keys : t.keys.Nodup
  elements : ∀ e ∈ t.elements, e.2.KeysDistinct

/-- A table has an element for each key. -/
theorem length_keys (t : TableElements Ruleset) : t.keys.length = t.elements.length := by
  simp [keys, Association.keys]

/-- Where the same is found under each key, the same keys are declared. -/
theorem mem_keys_of_get?_eq (hget : ∀ key, t.get? key = u.get? key) {key : String} :
    key ∈ t.keys ↔ key ∈ u.keys := by
  have ht : (t.get? key).isSome = true ↔ key ∈ t.keys := Association.isSome_lookup_iff
  have hu : (u.get? key).isSome = true ↔ key ∈ u.keys := Association.isSome_lookup_iff
  rw [← ht, ← hu, hget key]

/-- Tables with one policy are equal if what each declares for a key is the same and equal to
itself. -/
theorem same_of_get?_eq (ht : t.keys.Nodup) (hu : u.keys.Nodup)
    (hself : ∀ e ∈ t.elements, e.2.same e.2 = true) (hget : ∀ key, t.get? key = u.get? key)
    (hmembership : t.membership = u.membership) : t.same u = true := by
  have hperm : t.keys.Perm u.keys :=
    (List.perm_ext_iff_of_nodup ht hu).mpr fun _ => mem_keys_of_get?_eq hget
  have hlength : t.elements.length = u.elements.length := by
    rw [← length_keys, ← length_keys, hperm.length_eq]
  have hbound : Ruleset.boundIn t.elements u.elements = true := by
    refine Ruleset.boundIn_iff.mpr fun e he => ⟨e.2, ?_, hself e he⟩
    have hfound : t.get? e.1 = some e.2 := Association.lookup_of_mem ht he
    exact (hget e.1).symm.trans hfound
  simp [same, hlength, hbound, hmembership, Ruleset.same_membership_self]

end TableElements

/-- Equality of optional parts: both are missing, or both are there and equal. -/
def sameOption {α : Type} (same : α → α → Bool) : Option α → Option α → Bool
  | none, none => true
  | some a, some b => same a b
  | _, _ => false

/-- An optional part is equal to itself if what is there is. -/
theorem sameOption_self {α : Type} {same : α → α → Bool} {o : Option α}
    (h : ∀ a, o = some a → same a a = true) : sameOption same o o = true := by
  cases o with
  | none => rfl
  | some a => exact h a rfl

/-- Equality of lists: the same bounds, and equal rules for items. -/
def ListItems.same (l m : ListItems Ruleset) : Bool :=
  l.minOccur == m.minOccur && l.maxOccur == m.maxOccur && l.itemRules.same m.itemRules

namespace Ruleset

variable {r : Ruleset}

/-- Rulesets are compared part by part. -/
theorem same_eq (r q : Ruleset) :
    r.same q =
      (sameRules r.typeRules q.typeRules && sameRules r.patternRules q.patternRules
        && r.optional == q.optional && r.nullable == q.nullable && r.emptiness == q.emptiness
        && sameValues r.alternativeEnum q.alternativeEnum
        && sameOption same r.alternativeRuleSet q.alternativeRuleSet
        && sameOption TableElements.same r.tableElements q.tableElements
        && sameOption ListItems.same r.listItems q.listItems) := by
  obtain ⟨types, patterns, optional, nullable, emptiness, enum, alternative, table, items⟩ := r
  obtain ⟨_, _, _, _, _, _, alternative', table', items'⟩ := q
  rw [same.eq_def]
  cases alternative <;> cases alternative' <;> cases table <;> cases table' <;> cases items <;>
    cases items' <;> rfl

/-- Nothing in an intact ruleset binds a key twice. -/
theorem keysDistinct_of_intact {p : Provider} (h : r.Everywhere (Intact p)) : r.KeysDistinct :=
  h.imp fun _ hq =>
    { arguments := hq.sound.arguments
      alternativeEnum := fun values hvalues _ hv =>
        keysDistinct_of_enumValueFault? ((hq.sound.alternativeEnum values hvalues).scalar _ hv)
      table := fun t ht => (hq.sound.table t ht).keys }

/-- A ruleset in which nothing binds a key twice is equal to itself. -/
theorem same_self (h : r.KeysDistinct) : r.same r = true := by
  induction h with
  | @node r here _ ih =>
    have htypes : sameRules r.typeRules r.typeRules = true :=
      sameRules_self fun q hq => here.arguments q (List.mem_append_left _ hq)
    have hpatterns : sameRules r.patternRules r.patternRules = true :=
      sameRules_self fun q hq => here.arguments q (List.mem_append_right _ hq)
    have henum : sameValues r.alternativeEnum r.alternativeEnum = true := by
      cases hvalues : r.alternativeEnum with
      | none => rfl
      | some values => exact Value.sameItems_self values (here.alternativeEnum values hvalues)
    have halternative : sameOption same r.alternativeRuleSet r.alternativeRuleSet = true :=
      sameOption_self fun a ha => ih a (mem_parts_of_alternative ha)
    have htable : sameOption TableElements.same r.tableElements r.tableElements = true :=
      sameOption_self fun t ht =>
        TableElements.same_of_get?_eq (here.table t ht) (here.table t ht)
          (fun e he => ih e.2 (mem_parts_of_element ht he)) (fun _ => rfl) rfl
    have hitems : sameOption ListItems.same r.listItems r.listItems = true :=
      sameOption_self fun l hl => by simp [ListItems.same, ih _ (mem_parts_of_items hl)]
    rw [same_eq]
    simp only [htypes, hpatterns, henum, halternative, htable, hitems, beq_self_eq_true,
      Bool.and_self]

end Ruleset

/-! ## Policies without a key -/

namespace Membership

/-- Policies that list keys leave the rest without a key, and give way to another policy, which
lists none, when there is no rest. -/
structure GivesWay (listing : List String → Membership) (emptied : Membership) : Prop where
  without : ∀ keys key, (listing keys).without key =
    if keys.filter (· != key) = [] then emptied else listing (keys.filter (· != key))
  stays : ∀ key, emptied.without key = emptied
  listed : ∀ keys, (listing keys).listed? = some keys
  unlisted : emptied.listed? = none

/-- A whitelist that runs empty admits nothing. -/
theorem whitelist_givesWay : GivesWay whitelist exclusive where
  without keys key := by
    rw [Membership.without]
    split
    · next hnone => rw [if_pos hnone]
    · next hsome => rw [if_neg hsome]
  stays _ := rfl
  listed _ := rfl
  unlisted := rfl

/-- A blacklist that runs empty admits everything. -/
theorem blacklist_givesWay : GivesWay blacklist «open» where
  without keys key := by
    rw [Membership.without]
    split
    · next hnone => rw [if_pos hnone]
    · next hsome => rw [if_neg hsome]
  stays _ := rfl
  listed _ := rfl
  unlisted := rfl

namespace GivesWay

variable {listing : List String → Membership} {emptied : Membership} (h : GivesWay listing emptied)
  (keys : List String) (key other : String)

include h

/-- Two keys are taken from a list in either order. -/
theorem without_comm : ((listing keys).without key).without other =
    ((listing keys).without other).without key := by
  have hcomm : (keys.filter (· != key)).filter (· != other) =
      (keys.filter (· != other)).filter (· != key) := List.filter_comm _ _ keys
  by_cases hkey : keys.filter (· != key) = [] <;>
    by_cases hother : keys.filter (· != other) = [] <;>
    simp only [h.without, h.stays, ← hcomm, hkey, hother, List.filter_nil, if_true, if_false]
  rw [hcomm, hother, List.filter_nil, if_pos rfl]

/-- A key is taken from a list once. -/
theorem without_without :
    ((listing keys).without key).without key = (listing keys).without key := by
  have htwice : (keys.filter (· != key)).filter (· != key) = keys.filter (· != key) := by
    simp [List.filter_filter]
  by_cases hkey : keys.filter (· != key) = []
  · simp only [h.without, hkey, if_true, h.stays]
  · simp only [h.without, hkey, if_false, htwice]

/-- What is listed without a key is the rest, if there is one. -/
theorem listed?_without {rest : List String}
    (hrest : ((listing keys).without key).listed? = some rest) :
    ∃ old, (listing keys).listed? = some old ∧ rest = old.filter (· != key) ∧ rest ≠ [] := by
  rw [h.without] at hrest
  split at hrest
  · rw [h.unlisted] at hrest
    cases hrest
  · next hsome =>
    rw [h.listed] at hrest ⊢
    obtain rfl := Option.some.inj hrest
    exact ⟨keys, rfl, rfl, hsome⟩

end GivesWay

/-- A policy without a key says the same of other keys. -/
theorem admits_without {key other : String} (h : other ≠ key) (m : Membership) :
    (m.without key).admits other = m.admits other := by
  have hrest (keys : List String) :
      (keys.filter (· != key)).contains other = keys.contains other := by
    simp [h]
  cases m with
  | «open» | exclusive => rfl
  | whitelist keys =>
    rw [whitelist_givesWay.without]
    split
    · next hnone => simpa [admits, hnone] using hrest keys
    · exact hrest keys
  | blacklist keys =>
    rw [blacklist_givesWay.without]
    split
    · next hnone => simpa [admits, hnone] using hrest keys
    · exact congrArg not (hrest keys)

/-- Two keys are taken from a policy in either order. -/
theorem without_comm (m : Membership) (key other : String) :
    (m.without key).without other = (m.without other).without key := by
  cases m with
  | «open» | exclusive => rfl
  | whitelist keys => exact whitelist_givesWay.without_comm keys key other
  | blacklist keys => exact blacklist_givesWay.without_comm keys key other

/-- A key is taken from a policy once. -/
theorem without_without (m : Membership) (key : String) :
    (m.without key).without key = m.without key := by
  cases m with
  | «open» | exclusive => rfl
  | whitelist keys => exact whitelist_givesWay.without_without keys key
  | blacklist keys => exact blacklist_givesWay.without_without keys key

/-- What a policy without a key lists is the rest of what it listed, and is not empty. -/
theorem listed?_without {m : Membership} {key : String} {rest : List String}
    (h : (m.without key).listed? = some rest) :
    ∃ keys, m.listed? = some keys ∧ rest = keys.filter (· != key) ∧ rest ≠ [] := by
  cases m with
  | «open» | exclusive => cases h
  | whitelist keys => exact whitelist_givesWay.listed?_without keys key h
  | blacklist keys => exact blacklist_givesWay.listed?_without keys key h

end Membership

/-! ## Tables with an element -/

namespace TableElements

variable {t : TableElements Ruleset} {key : String} {r : Ruleset}

/-- A table whose policy lists keys lists at least one, and none that is declared. -/
def ListsUndeclared {α : Type} (t : TableElements α) : Prop :=
  ∀ keys, t.membership.listed? = some keys → keys ≠ [] ∧ ∀ key ∈ keys, key ∉ t.keys

/-- In every table that is built, nothing binds a key twice, and the policy lists undeclared keys
only. -/
theorem declares_of_built {p : Provider} (hp : p.Coherent) (h : Piece.Built p (.table t)) :
    t.KeysDistinct ∧ t.ListsUndeclared := by
  obtain ⟨hsound, helements⟩ := h.intact hp
  refine ⟨⟨hsound.keys, fun e he => Ruleset.keysDistinct_of_intact (helements e he)⟩, ?_⟩
  exact fun _ hlisted => hsound.membership.listed hlisted

/-- What is declared for a key after a declaration. -/
theorem get?_withElement (t : TableElements Ruleset) (key other : String) (r : Ruleset) :
    (t.withElement key r).get? other = if other = key then some r else t.get? other :=
  Association.lookup_insert key other r t.elements

/-- A key that is declared anew keeps its place, and a new one comes last. -/
theorem keys_withElement (t : TableElements Ruleset) (key : String) (r : Ruleset) :
    (t.withElement key r).keys = if key ∈ t.keys then t.keys else t.keys ++ [key] := by
  split
  · next hmem => exact Association.keys_insert_of_mem r hmem
  · next hnew =>
    have hinsert : Association.insert key r t.elements = t.elements ++ [(key, r)] :=
      Association.insert_of_not_mem hnew
    simp [keys, withElement, hinsert, Association.keys]

/-- Only the key that is declared may be new. -/
theorem eq_or_mem_of_mem_keys_withElement {other : String}
    (h : other ∈ (t.withElement key r).keys) : other = key ∨ other ∈ t.keys := by
  rw [keys_withElement] at h
  split at h
  · exact Or.inr h
  · exact (List.mem_append.mp h).symm.imp_left List.mem_singleton.mp

/-- A policy still lists undeclared keys only when a key becomes declared. -/
theorem ListsUndeclared.withElement (h : t.ListsUndeclared) (key : String) (r : Ruleset) :
    (t.withElement key r).ListsUndeclared := by
  intro rest hlisted
  obtain ⟨keys, hkeys, rfl, hsome⟩ := Membership.listed?_without hlisted
  refine ⟨hsome, fun k hk hdeclared => ?_⟩
  obtain ⟨hmem, hne⟩ := List.mem_filter.mp hk
  rcases eq_or_mem_of_mem_keys_withElement hdeclared with rfl | hold
  · simp at hne
  · exact (h keys hkeys).2 k hmem hold

/-- Keys stay distinct when one is declared. -/
theorem KeysDistinct.withElement (h : t.KeysDistinct) (key : String) (hr : r.KeysDistinct) :
    (t.withElement key r).KeysDistinct where
  keys := Association.nodup_keys_insert key r h.keys
  elements e he := by
    rcases Association.mem_of_mem_insert he with rfl | hold
    · exact hr
    · exact h.elements e hold

/-- Two keys are declared in either order, up to the order of elements. -/
theorem same_withElement_comm (ht : t.KeysDistinct) {other : String} (hne : other ≠ key)
    {q : Ruleset} (hr : r.KeysDistinct) (hq : q.KeysDistinct) :
    ((t.withElement key r).withElement other q).same
      ((t.withElement other q).withElement key r) = true := by
  have hone := (ht.withElement key hr).withElement other hq
  have htwo := (ht.withElement other hq).withElement key hr
  refine same_of_get?_eq hone.keys htwo.keys
    (fun e he => Ruleset.same_self (hone.elements e he)) (fun x => ?_)
    (t.membership.without_comm key other)
  simp only [get?_withElement]
  by_cases hother : x = other
  · subst hother
    rw [if_pos rfl, if_neg hne, if_pos rfl]
  · rw [if_neg hother, if_neg hother]

/-- A key that is declared twice has what it was declared for last. -/
theorem withElement_withElement (t : TableElements Ruleset) (key : String) (r q : Ruleset) :
    (t.withElement key r).withElement key q = t.withElement key q := by
  have helements : Association.insert key q (Association.insert key r t.elements) =
      Association.insert key q t.elements := Association.insert_insert key r q t.elements
  simp only [withElement, helements, Membership.without_without]

/-- A declaration changes what a table says of its key and of nothing else. The key has what it is
declared for, the others have what they had, in the same order, and no other key becomes admitted or
refused; a policy that lists keys still lists some, and none that is declared. Declarations for two
keys may be made in either order, and the second of two for one key replaces the first. -/
theorem withElement_changes_only (ht : t.KeysDistinct) (hlisted : t.ListsUndeclared)
    (key : String) (hr : r.KeysDistinct) :
    (t.withElement key r).get? key = some r ∧
      (∀ other, other ≠ key → (t.withElement key r).get? other = t.get? other) ∧
      (t.withElement key r).keys = (if key ∈ t.keys then t.keys else t.keys ++ [key]) ∧
      (∀ other, other ≠ key →
        (t.withElement key r).membership.admits other = t.membership.admits other) ∧
      (t.withElement key r).ListsUndeclared ∧
      (∀ other q, other ≠ key → q.KeysDistinct →
        ((t.withElement key r).withElement other q).same
          ((t.withElement other q).withElement key r) = true) ∧
      ∀ q, (t.withElement key r).withElement key q = t.withElement key q := by
  refine ⟨?_, fun other hne => ?_, keys_withElement t key r, fun other hne => ?_,
    hlisted.withElement key r, fun other q hne hq => same_withElement_comm ht hne hr hq,
    fun q => withElement_withElement t key r q⟩
  · rw [get?_withElement, if_pos rfl]
  · rw [get?_withElement, if_neg hne]
  · exact t.membership.admits_without hne

/-- The bell leaves the whitelist of the bicycle when it is declared, so that no other key is
admitted, and stands behind the wheels. A lamp may be declared before it or after it. -/
theorem bicycle_declares_bell :
    ∃ r t bell, Ruleset.ofDescriptionAt Provider.standard Ruleset.bicycle .root = .ok r ∧
      r.tableElements = some t ∧
      Ruleset.ofDescriptionAt Provider.standard (.string "boolean") .root = .ok bell ∧
      t.membership = .whitelist ["bell"] ∧
      (t.withElement "bell" bell).membership = .exclusive ∧
      (t.withElement "bell" bell).get? "bell" = some bell ∧
      (t.withElement "bell" bell).get? "wheels" = t.get? "wheels" ∧
      (t.withElement "bell" bell).keys = t.keys ++ ["bell"] ∧
      (t.withElement "bell" bell).membership.admits "lamp" = false ∧
      ((t.withElement "bell" bell).withElement "lamp" bell).same
        ((t.withElement "lamp" bell).withElement "bell" bell) = true := by
  obtain ⟨r, hr, htable⟩ :
      ∃ r, Ruleset.ofDescriptionAt Provider.standard Ruleset.bicycle .root = .ok r ∧
        r.tableElements.map (fun t => (t.keys, t.membership)) =
          some (["wheels"], .whitelist ["bell"]) := ⟨_, rfl, rfl⟩
  obtain ⟨t, ht, hparts⟩ := Option.map_eq_some_iff.mp htable
  obtain ⟨hkeys, hmembership⟩ := Prod.mk.inj hparts
  obtain ⟨bell, hbell⟩ :
      ∃ bell, Ruleset.ofDescriptionAt Provider.standard (.string "boolean") .root = .ok bell :=
    ⟨_, rfl⟩
  have hdistinct : Ruleset.bicycle.KeysDistinct := by
    simp [Ruleset.bicycle, Association.keys, Value.KeysDistinct, Value.ItemsKeysDistinct,
      Value.MembersKeysDistinct]
  have hbuilt := (Piece.Built.read hdistinct hr).table ht
  obtain ⟨htDistinct, hlisted⟩ := declares_of_built Provider.standard_coherent hbuilt
  have hbellBuilt := Piece.Built.read (by simp [Value.KeysDistinct]) hbell
  have hbellDistinct := Ruleset.keysDistinct_of_intact
    (hbellBuilt.intact Provider.standard_coherent)
  obtain ⟨hget, hother, hkeysAfter, hadmits, -, hcomm, -⟩ :=
    withElement_changes_only htDistinct hlisted "bell" hbellDistinct
  have hnew : "bell" ∉ t.keys := by simp [hkeys]
  refine ⟨r, t, bell, hr, ht, hbell, hmembership, ?_, hget, hother _ (by decide), ?_, ?_,
    hcomm "lamp" bell (by decide) hbellDistinct⟩
  · simp [withElement, hmembership, Membership.without]
  · rw [hkeysAfter, if_neg hnew]
  · rw [hadmits _ (by decide), hmembership]
    decide

end TableElements

end Rulebook
