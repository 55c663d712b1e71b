import Mathlib.Logic.Basic
import Rulebook.Proofs.Description.Steps
import Rulebook.Ruleset.Canonical
import Rulebook.Ruleset.Equality

/-!
# Rulesets without former names

The canonical description of a ruleset does not tell the former names of its rules, and equality
does not look at them. So the plain form of a ruleset, which has none, is described in the same way,
and is equal to the ruleset.
-/

namespace Rulebook

open Json (Value Members)

/-- A rule without its former names. -/
def Rule.plain (r : Rule) : Rule := { r with formerNames := [] }

/-- The table with something else declared for each key. -/
def TableElements.map {α β : Type} (f : α → β) (t : TableElements α) : TableElements β where
  elements := t.elements.map fun e => (e.1, f e.2)
  membership := t.membership

/-- The list with something else declared for its items. -/
def ListItems.map {α β : Type} (f : α → β) (l : ListItems α) : ListItems β where
  minOccur := l.minOccur
  maxOccur := l.maxOccur
  itemRules := f l.itemRules

mutual

/-- A ruleset without the former names of its rules. -/
def Ruleset.plain : Ruleset → Ruleset
  | ⟨types, patterns, optional, nullable, emptiness, enum, alternative, table, items⟩ =>
    { typeRules := types.map Rule.plain
      patternRules := patterns.map Rule.plain
      optional := optional
      nullable := nullable
      emptiness := emptiness
      alternativeEnum := enum
      alternativeRuleSet :=
        match alternative with
        | none => none
        | some a => some a.plain
      tableElements :=
        match table with
        | none => none
        | some ⟨elements, membership⟩ => some ⟨Ruleset.plainElements elements, membership⟩
      listItems :=
        match items with
        | none => none
        | some ⟨least, most, rules⟩ => some ⟨least, most, rules.plain⟩ }

/-- Declared elements without the former names of rules. -/
def Ruleset.plainElements : List (String × Ruleset) → List (String × Ruleset)
  | [] => []
  | (key, r) :: rest => (key, r.plain) :: Ruleset.plainElements rest

end

/-- Declared elements are made plain one by one. -/
theorem Ruleset.plainElements_eq (elements : List (String × Ruleset)) :
    plainElements elements = elements.map fun e => (e.1, e.2.plain) := by
  induction elements with
  | nil => rfl
  | cons e rest ih => rw [plainElements, ih, List.map_cons]

/-- A ruleset without the former names of its own rules, and with something else in place of each
part. -/
def Ruleset.plainWith (r : Ruleset) (back : Ruleset → Ruleset) : Ruleset :=
  { r with
    typeRules := r.typeRules.map Rule.plain
    patternRules := r.patternRules.map Rule.plain
    alternativeRuleSet := r.alternativeRuleSet.map back
    tableElements := r.tableElements.map (TableElements.map back)
    listItems := r.listItems.map (ListItems.map back) }

/-- The plain form of a ruleset, from those of its parts. -/
theorem Ruleset.plain_eq (r : Ruleset) : r.plain = r.plainWith plain := by
  obtain ⟨types, patterns, optional, nullable, emptiness, enum, alternative, table, items⟩ := r
  rw [plain.eq_def]
  cases alternative <;> cases table <;> cases items <;>
    simp [plainWith, plainElements_eq, TableElements.map, ListItems.map]

/-- What is put in place of the parts of a ruleset is looked at for these parts alone. -/
theorem Ruleset.plainWith_congr {r : Ruleset} {back back' : Ruleset → Ruleset}
    (h : ∀ q ∈ r.parts, back q = back' q) : r.plainWith back = r.plainWith back' := by
  have halternative : r.alternativeRuleSet.map back = r.alternativeRuleSet.map back' :=
    Option.map_congr fun a ha => h a (mem_parts_of_alternative ha)
  have htable : r.tableElements.map (TableElements.map back) =
      r.tableElements.map (TableElements.map back') := by
    refine Option.map_congr fun t ht => ?_
    have helements : t.elements.map (fun e => (e.1, back e.2)) =
        t.elements.map fun e => (e.1, back' e.2) :=
      List.map_congr_left fun e he => by rw [h e.2 (mem_parts_of_element ht he)]
    simp only [TableElements.map, helements]
  have hitems : r.listItems.map (ListItems.map back) = r.listItems.map (ListItems.map back') :=
    Option.map_congr fun l hl => by simp only [ListItems.map, h _ (mem_parts_of_items hl)]
  simp only [plainWith, halternative, htable, hitems]

/-- Rules for children stay guarded without former names. -/
theorem Ruleset.GuardsChildren.plainWith {r : Ruleset} (h : r.GuardsChildren)
    (back : Ruleset → Ruleset) : (r.plainWith back).GuardsChildren := by
  simpa [GuardsChildren, Ruleset.plainWith, hasChildren] using h

/-! ## Descriptions -/

/-- The description of a table, given those of rulesets. -/
def TableElements.toJson (describe : Ruleset → Value) (t : TableElements Ruleset) : Value :=
  .object (("rulesByElements", .object (t.elements.map fun e => (e.1, describe e.2)))
    :: t.membership.members)

/-- The description of a list, given those of rulesets. -/
def ListItems.toJson (describe : Ruleset → Value) (l : ListItems Ruleset) : Value :=
  .object (("itemRules", describe l.itemRules)
    :: (occurrenceMember "minOccur" l.minOccur
      ++ occurrenceMember "maxOccur" (l.maxOccur.getD 0)))

/-- The member of the flag for empty subjects. -/
def emptinessMember (emptiness : Option Emptiness) : Members :=
  emptiness.toList.flatMap fun e => flagMember e.name true

/-- The member of something that a ruleset may lack. -/
def partMember {α : Type} (key : CoreKey) (describe : α → Value) (part : Option α) : Members :=
  part.toList.map fun a => (key.name, describe a)

namespace Ruleset

/-- The members of the canonical description for the flags. -/
def flagMembers (r : Ruleset) : Members :=
  flagMember CoreKey.optional.name r.optional
    ++ (flagMember CoreKey.nullable.name r.nullable ++ emptinessMember r.emptiness)

/-- The members of the canonical description for fallbacks and children. -/
def partMembers (r : Ruleset) : Members :=
  partMember .alternativeEnum .array r.alternativeEnum
    ++ (partMember .alternativeRuleSet toJson r.alternativeRuleSet
    ++ (partMember .tableElements (TableElements.toJson toJson) r.tableElements
    ++ partMember .listItems (ListItems.toJson toJson) r.listItems))

/-- The members of the canonical description, in order. -/
def members (r : Ruleset) : Members :=
  ruleMembers r.typeRules
    ++ (r.flagMembers ++ (ruleMembers r.patternRules ++ r.partMembers))

/-- Declared elements are described one by one. -/
theorem elementMembers_eq (elements : List (String × Ruleset)) :
    elementMembers elements = elements.map fun e => (e.1, e.2.toJson) := by
  induction elements with
  | nil => rfl
  | cons e rest ih => rw [elementMembers, ih, List.map_cons]

/-- The canonical description binds its members. -/
theorem toJson_eq (r : Ruleset) : r.toJson = .object (bindAll [] r.members) := by
  obtain ⟨types, patterns, optional, nullable, emptiness, enum, alternative, table, items⟩ := r
  rw [toJson.eq_def]
  simp only [members, flagMembers, partMembers, List.append_assoc]
  refine congrArg Value.object (congrArg (bindAll []) ?_)
  refine congrArg₂ _ rfl (congrArg₂ _ rfl (congrArg₂ _ rfl (congrArg₂ _ ?_ (congrArg₂ _ rfl
    (congrArg₂ _ ?_ (congrArg₂ _ ?_ (congrArg₂ _ ?_ ?_)))))))
  · cases emptiness <;> simp [emptinessMember]
  · cases enum <;> rfl
  · cases alternative <;> rfl
  · cases table <;> simp [partMember, TableElements.toJson, elementMembers_eq, CoreKey.name]
  · cases items <;> rfl

/-- Rules without former names are described in the same way. -/
theorem ruleMembers_plain (rules : List Rule) :
    ruleMembers (rules.map Rule.plain) = ruleMembers rules := by
  simp [ruleMembers, Rule.plain]

/-- The plain form of a ruleset is described in the same way. -/
theorem toJson_plain (r : Ruleset) : r.plain.toJson = r.toJson := by
  induction r with
  | ruleset r ih =>
    have htable : partMember .tableElements (TableElements.toJson toJson)
        (r.tableElements.map (TableElements.map plain)) =
        partMember .tableElements (TableElements.toJson toJson) r.tableElements := by
      cases ht : r.tableElements with
      | none => rfl
      | some t =>
        have helements : t.elements.map (fun e => (e.1, e.2.plain.toJson)) =
            t.elements.map fun e => (e.1, e.2.toJson) :=
          List.map_congr_left fun e he => by rw [ih e.2 (mem_parts_of_element ht he)]
        simp [partMember, TableElements.toJson, TableElements.map, Function.comp_def, helements]
    have hmembers : r.plain.members = r.members := by
      rw [plain_eq, plainWith]
      simp only [members, flagMembers, partMembers, ruleMembers_plain, htable]
      refine congrArg₂ _ rfl (congrArg₂ _ rfl (congrArg₂ _ rfl (congrArg₂ _ rfl
        (congrArg₂ _ ?_ (congrArg₂ _ rfl ?_)))))
      · cases ha : r.alternativeRuleSet with
        | none => rfl
        | some a => simp [partMember, ih a (mem_parts_of_alternative ha)]
      · cases hl : r.listItems with
        | none => rfl
        | some l =>
          simp [partMember, ListItems.toJson, ListItems.map, ih _ (mem_parts_of_items hl)]
    rw [toJson_eq, toJson_eq, hmembers]

/-! ## Equality -/

/-- Arguments with distinct keys are equal to themselves. -/
theorem same_arguments_self {arguments : Arguments}
    (h : ∀ v ∈ arguments.values, v.KeysDistinct) : arguments.same arguments = true := by
  cases arguments with
  | flag => rfl
  | list values => exact Value.sameItems_self values h

/-- Rules with distinct keys in their arguments are equal to themselves without former names. -/
theorem sameRules_plain {rules : List Rule}
    (h : ∀ q ∈ rules, ∀ v ∈ q.arguments.values, v.KeysDistinct) :
    sameRules (rules.map Rule.plain) rules = true := by
  induction rules with
  | nil => rfl
  | cons q rest ih =>
    obtain ⟨hq, hrest⟩ := List.forall_mem_cons.mp h
    simp [sameRules, Rule.same, Rule.plain, same_arguments_self hq, ih hrest]

/-- Rules with distinct keys in their arguments are equal to themselves. -/
theorem sameRules_self {rules : List Rule}
    (h : ∀ q ∈ rules, ∀ v ∈ q.arguments.values, v.KeysDistinct) :
    sameRules rules rules = true := by
  induction rules with
  | nil => rfl
  | cons q rest ih =>
    obtain ⟨hq, hrest⟩ := List.forall_mem_cons.mp h
    simp [sameRules, Rule.same, same_arguments_self hq, ih hrest]

/-- A list of keys is equal to itself. -/
theorem sameKeys_self (keys : List String) : sameKeys keys keys = true := by
  simp [sameKeys]

/-- A policy is equal to itself. -/
theorem same_membership_self (m : Membership) : m.same m = true := by
  cases m <;> simp [Membership.same, sameKeys_self]

/-- Elements are bound exactly if each of them is, by something equal. -/
theorem boundIn_iff {elements other : List (String × Ruleset)} :
    boundIn elements other = true ↔
      ∀ e ∈ elements, ∃ q, Association.lookup e.1 other = some q ∧ e.2.same q = true := by
  induction elements with
  | nil => simp [boundIn]
  | cons e rest ih =>
    rw [boundIn, Bool.and_eq_true, ih, List.forall_mem_cons]
    cases Association.lookup e.1 other <;> simp

/-- A sound ruleset is equal to itself without former names, and with something else in place of
each part, exactly if what is put there is equal to the part. -/
theorem Sound.same_plainWith_iff {p : Provider} {r : Ruleset} (h : r.Sound p)
    (back : Ruleset → Ruleset) :
    (r.plainWith back).same r = true ↔ ∀ q ∈ r.parts, (back q).same q = true := by
  have htypes : sameRules (r.typeRules.map Rule.plain) r.typeRules = true :=
    sameRules_plain fun q hq => h.arguments q (List.mem_append_left _ hq)
  have hpatterns : sameRules (r.patternRules.map Rule.plain) r.patternRules = true :=
    sameRules_plain fun q hq => h.arguments q (List.mem_append_right _ hq)
  have henum : sameValues r.alternativeEnum r.alternativeEnum = true := by
    cases henum : r.alternativeEnum with
    | none => rfl
    | some values =>
      exact Value.sameItems_self values fun v hv =>
        keysDistinct_of_enumValueFault? ((h.alternativeEnum values henum).scalar v hv)
  have hbound {t : TableElements Ruleset} (ht : r.tableElements = some t) :
      boundIn (t.map back).elements t.elements = true ↔
        ∀ e ∈ t.elements, (back e.2).same e.2 = true := by
    have hlookup {e : String × Ruleset} (he : e ∈ t.elements) :
        Association.lookup e.1 t.elements = some e.2 :=
      Association.lookup_of_mem (h.table t ht).keys he
    rw [boundIn_iff, TableElements.map, List.forall_mem_map]
    refine forall₂_congr fun e he => ?_
    simp [hlookup he]
  rw [plainWith, same.eq_def]
  simp only [htypes, hpatterns, henum, beq_self_eq_true, Bool.and_true, Bool.and_eq_true]
  constructor
  · rintro ⟨⟨⟨-, halternative⟩, htable⟩, hitems⟩
    refine forall_mem_parts ?_ ?_ ?_
    · intro a ha
      simpa [ha] using halternative
    · intro t ht
      simp only [ht, Option.map_some, Bool.and_eq_true] at htable
      exact (hbound ht).mp htable.1.2
    · intro l hl
      simpa [hl, ListItems.map] using hitems
  · intro hparts
    refine ⟨⟨⟨trivial, ?_⟩, ?_⟩, ?_⟩
    · cases ha : r.alternativeRuleSet with
      | none => rfl
      | some a => exact hparts a (mem_parts_of_alternative ha)
    · cases ht : r.tableElements with
      | none => rfl
      | some t =>
        have hall := (hbound ht).mpr fun e he => hparts e.2 (mem_parts_of_element ht he)
        have hlength : (t.map back).elements.length = t.elements.length := by
          simp [TableElements.map]
        have hmembership : (t.map back).membership.same t.membership = true :=
          same_membership_self t.membership
        simpa [hlength, hall] using hmembership
    · cases hl : r.listItems with
      | none => rfl
      | some l => simpa [ListItems.map] using hparts _ (mem_parts_of_items hl)

/-- A ruleset that is sound everywhere is equal to its plain form. -/
theorem same_plain {p : Provider} {r : Ruleset} (h : r.Everywhere (Sound p)) :
    r.plain.same r = true := by
  induction h with
  | node sound _ ih =>
    rw [plain_eq, sound.same_plainWith_iff]
    exact ih

end Ruleset

end Rulebook
