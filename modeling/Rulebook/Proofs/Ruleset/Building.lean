import Mathlib.Data.List.Nodup
import Rulebook.Proofs.Description.Drafting
import Rulebook.Standard.Types

/-!
# Rulesets that are built

Rulesets are read from descriptions, and builders make new ones of them: a table with a key declared
anew, a list with other rules for its items, a ruleset with another table or another list. In
whatever order the builders are run, all rulesets in what they make are well formed.
-/

namespace Rulebook

open Json (Value)

/-! ## Well-formed rulesets -/

/-- Values that may be listed: at least one, and only booleans, numbers and strings. -/
structure ListsScalars (values : List Value) : Prop where
  nonempty : values ≠ []
  scalar : ∀ v ∈ values, Standard.isScalar v = true

/-- A provider describes a rule as type-checking or not, and the rule has as many arguments as it
takes. -/
def Provider.Describes (p : Provider) (r : Rule) (isTypeChecking : Bool) : Prop :=
  ∃ d, p.descriptor r.name = some d ∧ d.isTypeChecking = isTypeChecking ∧
    d.required ≤ r.arguments.values.length ∧ r.arguments.values.length ≤ d.allowed

/-- The keys that a policy lists. -/
def Membership.listed? : Membership → Option (List String)
  | .open => none
  | .exclusive => none
  | .whitelist keys => some keys
  | .blacklist keys => some keys

/-- The form of a ruleset in which it can be run and described. -/
structure Ruleset.WellFormed (p : Provider) (r : Ruleset) : Prop where
  typeRules : ∀ q ∈ r.typeRules, q.kind = .typeCheck ∧ p.Describes q true
  patternRules : ∀ q ∈ r.patternRules,
    q.kind = .pattern ∧ p.Describes q false ∨
      q.kind = .enumeration ∧ ListsScalars q.arguments.values
  oneEnumeration : (r.rules.filter fun q => q.kind = .enumeration).length ≤ 1
  /-- No two rules share a name. -/
  names : (r.rules.map Rule.name).Nodup
  /-- Pattern rules stand behind a type-checking one. -/
  typed : r.typeRules = [] → r.patternRules = []
  alternativeEnum : ∀ values, r.alternativeEnum = some values → ListsScalars values
  /-- Fallbacks are not nested and say nothing about children. -/
  alternative : ∀ a, r.alternativeRuleSet = some a →
    a.alternativeRuleSet = none ∧ a.tableElements = none ∧ a.listItems = none
  declared : ∀ t, r.tableElements = some t → t.keys ≠ []
  /-- A policy lists undeclared keys, and at least one if it lists any. -/
  listed : ∀ t, r.tableElements = some t → ∀ keys, t.membership.listed? = some keys →
    keys ≠ [] ∧ ∀ key ∈ keys, key ∉ t.keys
  /-- The bounds of a list leave room between them. -/
  bounds : ∀ l, r.listItems = some l → ∀ most, l.maxOccur = some most →
    most ≠ 0 ∧ l.minOccur ≤ most

/-- Listed values without a fault are scalars. -/
theorem ScalarList.listsScalars {values : List Value} (h : ScalarList values) :
    ListsScalars values where
  nonempty := h.nonempty
  scalar v hv := by
    have hfault := h.scalar v hv
    cases v <;> first | rfl | cases hfault

/-- Arguments that fit a rule are as many as it takes. -/
theorem Arguments.Fits.length_le {d : Descriptor} {arguments : Arguments}
    (h : arguments.Fits d) :
    d.required ≤ arguments.values.length ∧ arguments.values.length ≤ d.allowed := by
  cases arguments with
  | flag => exact ⟨Nat.le_of_eq h, Nat.zero_le _⟩
  | list values => exact ⟨h.1, h.2.1⟩

/-- A rule that fits its description is described. -/
theorem Rule.FitsDescriptor.describes {p : Provider} {r : Rule} {d : Descriptor}
    (h : r.FitsDescriptor p d) : p.Describes r d.isTypeChecking :=
  ⟨d, h.described, rfl, h.arguments.length_le⟩

/-- A policy that fits declared keys lists others. -/
theorem Membership.Fits.listed {declared keys : List String} {m : Membership}
    (h : m.Fits declared) (hkeys : m.listed? = some keys) :
    keys ≠ [] ∧ ∀ key ∈ keys, key ∉ declared := by
  have hundeclared : UndeclaredKeys declared keys := by
    cases m with
    | «open» | exclusive => cases hkeys
    | whitelist listed | blacklist listed => exact Option.some.inj hkeys ▸ h
  exact ⟨hundeclared.nonempty, hundeclared.undeclared⟩

/-- A ruleset without parts that a fallback must not have. -/
theorem Draft.nestedPart?_eq_none_iff {a : Ruleset} :
    Draft.nestedPart? a = none ↔
      a.alternativeRuleSet = none ∧ a.tableElements = none ∧ a.listItems = none := by
  unfold Draft.nestedPart?
  cases a.alternativeRuleSet <;> cases a.tableElements <;> cases a.listItems <;> simp

namespace Ruleset

variable {p : Provider} {r : Ruleset}

/-- A sound ruleset has at most one enumeration, since all of them have one name. -/
theorem Sound.oneEnumeration (h : r.Sound p) :
    (r.rules.filter fun q => q.kind = .enumeration).length ≤ 1 := by
  have hnames : ((r.rules.filter fun q => q.kind = .enumeration).map Rule.name).Nodup :=
    (List.filter_sublist.map Rule.name).nodup h.names
  have hone : (r.rules.filter fun q => q.kind = .enumeration).map Rule.name =
      List.replicate (r.rules.filter fun q => q.kind = .enumeration).length
        CoreKey.enum.name := by
    refine List.map_eq_replicate_iff.mpr fun q hq => ?_
    obtain ⟨hmem, hkind⟩ := List.mem_filter.mp hq
    have hkind : q.kind = .enumeration := by simpa using hkind
    rcases List.mem_append.mp hmem with htype | hpattern
    · have htypeKind := (h.typeRules q htype).1
      rw [hkind] at htypeKind
      cases htypeKind
    · rcases h.patternRules q hpattern with ⟨hpatternKind, _⟩ | ⟨_, hname, _⟩
      · rw [hkind] at hpatternKind
        cases hpatternKind
      · exact hname
  rw [hone] at hnames
  exact List.nodup_replicate.mp hnames

/-- A sound ruleset whose pattern rules stand behind a type-checking one is well formed. -/
theorem Sound.wellFormed (h : r.Sound p) (htyped : r.typeRules = [] → r.patternRules = []) :
    r.WellFormed p where
  typeRules q hq := by
    obtain ⟨hkind, d, hchecking, hfits⟩ := h.typeRules q hq
    exact ⟨hkind, hchecking ▸ hfits.describes⟩
  patternRules q hq := by
    rcases h.patternRules q hq with hpattern | henumerates
    · obtain ⟨hkind, d, hchecking, hfits⟩ := hpattern
      exact Or.inl ⟨hkind, hchecking ▸ hfits.describes⟩
    · obtain ⟨hkind, _, values, hvalues, hlist⟩ := henumerates
      refine Or.inr ⟨hkind, ?_⟩
      rw [hvalues]
      exact hlist.listsScalars
  oneEnumeration := h.oneEnumeration
  names := h.names
  typed := htyped
  alternativeEnum values hvalues := (h.alternativeEnum values hvalues).listsScalars
  alternative a ha := Draft.nestedPart?_eq_none_iff.mp (h.alternative a ha)
  declared t ht := by simpa [TableElements.keys, Association.keys] using (h.table t ht).nonempty
  listed t ht _ hkeys := (h.table t ht).membership.listed hkeys
  bounds l hl most hmost := ((h.items l hl).most most hmost).2

end Ruleset

/-! ## What builders keep -/

/-- Listed keys from which a declared one was removed are undeclared. -/
theorem UndeclaredKeys.without {declared keys : List String} (h : UndeclaredKeys declared keys)
    {key : String} {next : List String} (hnext : ∀ k ∈ next, k = key ∨ k ∈ declared)
    (hrest : keys.filter (· != key) ≠ []) : UndeclaredKeys next (keys.filter (· != key)) where
  nonempty := hrest
  nodup := h.nodup.filter _
  undeclared k hk hmem := by
    obtain ⟨hlisted, hne⟩ := List.mem_filter.mp hk
    rcases hnext k hmem with rfl | hold
    · simp at hne
    · exact h.undeclared k hlisted hold

/-- A policy from which a key was removed fits when that key is declared as well. -/
theorem Membership.Fits.without {declared : List String} {m : Membership} (h : m.Fits declared)
    {key : String} {next : List String} (hnext : ∀ k ∈ next, k = key ∨ k ∈ declared) :
    (m.without key).Fits next := by
  cases m with
  | «open» | exclusive => trivial
  | whitelist keys | blacklist keys =>
    unfold Membership.without
    dsimp only
    split
    · trivial
    · next hrest => exact UndeclaredKeys.without h hnext hrest

/-- A table stays sound when a key is declared, or declared anew. -/
theorem TableElements.Sound.withElement {α : Type} {t : TableElements α} (h : t.Sound)
    (key : String) (a : α) : (t.withElement key a).Sound where
  nonempty := Association.insert_ne_nil key a t.elements
  keys := Association.nodup_keys_insert key a h.keys
  membership := by
    refine h.membership.without fun k hk => ?_
    obtain ⟨e, he, rfl⟩ := List.mem_map.mp hk
    rcases Association.mem_of_mem_insert he with rfl | hold
    · exact Or.inl rfl
    · exact Or.inr (List.mem_map_of_mem hold)

namespace Ruleset

/-- What builders keep of a ruleset: it is sound, and without a type-checking rule it has no pattern
rules and speaks about emptiness. Rules for children need no guard. -/
structure Intact (p : Provider) (r : Ruleset) : Prop where
  sound : r.Sound p
  typed : r.typeRules = [] → r.patternRules = []
  flagged : r.typeRules = [] → r.emptiness.isSome = true

variable {p : Provider} {r : Ruleset}

/-- A regular ruleset is intact in all its rulesets. -/
theorem Regular.intact {levels : Nat} (h : r.Regular p levels) : r.Everywhere (Intact p) := by
  induction h with
  | node sound guarded _ ih =>
    exact .node ⟨sound, fun hnone => (guarded hnone).1, fun hnone => (guarded hnone).2.2⟩ ih

/-- A regular ruleset is guarded in all its rulesets. -/
theorem Regular.everywhere_guarded {levels : Nat} (h : r.Regular p levels) :
    r.Everywhere Guarded := by
  induction h with
  | node _ guarded _ ih => exact .node guarded ih

/-- A ruleset stays intact with another table of intact rulesets. -/
theorem Everywhere.withTableElements (h : r.Everywhere (Intact p)) {t : TableElements Ruleset}
    (ht : t.Sound) (helements : ∀ e ∈ t.elements, e.2.Everywhere (Intact p)) :
    (r.withTableElements t).Everywhere (Intact p) := by
  refine .node { h.here with sound := { h.here.sound with table := ?_ } }
    (forall_mem_parts_withTableElements h.parts helements)
  rintro u hu
  rwa [← Option.some.inj hu]

/-- A ruleset stays intact with another list of intact items. -/
theorem Everywhere.withListItems (h : r.Everywhere (Intact p)) {l : ListItems Ruleset}
    (hl : l.Sound) (hrules : l.itemRules.Everywhere (Intact p)) :
    (r.withListItems l).Everywhere (Intact p) := by
  refine .node { h.here with sound := { h.here.sound with items := ?_ } }
    (forall_mem_parts_withListItems h.parts hrules)
  rintro m hm
  rwa [← Option.some.inj hm]

end Ruleset

/-! ## Runs of builders -/

/-- What builders take and make. -/
inductive Piece where
  | ruleset (r : Ruleset)
  | table (t : TableElements Ruleset)
  | items (l : ListItems Ruleset)

/-- A piece is made by reading descriptions, taking rulesets apart and running builders, in any
number of steps. -/
inductive Piece.Built (p : Provider) : Piece → Prop
  /-- What is read from a description, in which no object binds a key twice, as in every value that
  is read from bytes. -/
  | read {description : Value} {place : Location} {r : Ruleset}
      (distinct : description.KeysDistinct)
      (reads : Ruleset.ofDescriptionAt p description place = .ok r) : Built p (.ruleset r)
  /-- The table of a ruleset. -/
  | table {r : Ruleset} {t : TableElements Ruleset} (ruleset : Built p (.ruleset r))
      (declares : r.tableElements = some t) : Built p (.table t)
  /-- The list of a ruleset. -/
  | items {r : Ruleset} {l : ListItems Ruleset} (ruleset : Built p (.ruleset r))
      (declares : r.listItems = some l) : Built p (.items l)
  /-- The fallback of a ruleset. -/
  | alternative {r a : Ruleset} (ruleset : Built p (.ruleset r))
      (declares : r.alternativeRuleSet = some a) : Built p (.ruleset a)
  /-- What a table declares for a key. -/
  | element {t : TableElements Ruleset} {key : String} {r : Ruleset} (table : Built p (.table t))
      (declares : t.get? key = some r) : Built p (.ruleset r)
  /-- What a list declares for its items. -/
  | itemRules {l : ListItems Ruleset} (items : Built p (.items l)) :
      Built p (.ruleset l.itemRules)
  | withElement {t : TableElements Ruleset} {r : Ruleset} (table : Built p (.table t))
      (key : String) (ruleset : Built p (.ruleset r)) : Built p (.table (t.withElement key r))
  | withItemRules {l : ListItems Ruleset} {r : Ruleset} (items : Built p (.items l))
      (ruleset : Built p (.ruleset r)) : Built p (.items (l.withItemRules r))
  | withTableElements {r : Ruleset} {t : TableElements Ruleset} (ruleset : Built p (.ruleset r))
      (table : Built p (.table t)) : Built p (.ruleset (r.withTableElements t))
  | withListItems {r : Ruleset} {l : ListItems Ruleset} (ruleset : Built p (.ruleset r))
      (items : Built p (.items l)) : Built p (.ruleset (r.withListItems l))

/-- A piece that is sound, with intact rulesets only. -/
def Piece.Intact (p : Provider) : Piece → Prop
  | .ruleset r => r.Everywhere (Ruleset.Intact p)
  | .table t => t.Sound ∧ ∀ e ∈ t.elements, e.2.Everywhere (Ruleset.Intact p)
  | .items l => l.Sound ∧ l.itemRules.Everywhere (Ruleset.Intact p)

/-- Every run of builders makes intact pieces. -/
theorem Piece.Built.intact {p : Provider} (hp : p.Coherent) {piece : Piece}
    (h : piece.Built p) : piece.Intact p := by
  induction h with
  | read distinct reads =>
    exact (Ruleset.regular_of_ofDescriptionWithin hp _ _ _ distinct reads).intact
  | table _ declares ih =>
    exact ⟨ih.here.sound.table _ declares,
      fun e he => ih.parts _ (Ruleset.mem_parts_of_element declares he)⟩
  | items _ declares ih =>
    exact ⟨ih.here.sound.items _ declares, ih.parts _ (Ruleset.mem_parts_of_items declares)⟩
  | alternative _ declares ih => exact ih.parts _ (Ruleset.mem_parts_of_alternative declares)
  | element _ declares ih => exact ih.2 _ (Association.mem_of_lookup declares)
  | itemRules _ ih => exact ih.2
  | withElement _ key _ ihTable ihRuleset =>
    refine ⟨ihTable.1.withElement key _, fun e he => ?_⟩
    rcases Association.mem_of_mem_insert he with rfl | hold
    · exact ihRuleset
    · exact ihTable.2 e hold
  | withItemRules _ _ ihItems ihRuleset =>
    exact ⟨⟨ihItems.1.least, ihItems.1.most⟩, ihRuleset⟩
  | withTableElements _ _ ihRuleset ihTable => exact ihRuleset.withTableElements ihTable.1 ihTable.2
  | withListItems _ _ ihRuleset ihItems => exact ihRuleset.withListItems ihItems.1 ihItems.2

namespace Ruleset

/-- A ruleset that is built from those which the standard provider reads is well formed in all its
rulesets. One that comes straight from a description also has a type-checking rule in each of them,
or speaks about emptiness only. -/
theorem wellFormed_of_built [PatternEngine] :
    (∀ r, Piece.Built Provider.standard (.ruleset r) →
      r.Everywhere (WellFormed Provider.standard)) ∧
    ∀ description place r, description.KeysDistinct →
      ofDescriptionAt Provider.standard description place = .ok r → r.Everywhere Guarded := by
  constructor
  · intro r hbuilt
    have hintact := hbuilt.intact Provider.standard_coherent
    exact Everywhere.imp hintact fun q hq => hq.sound.wellFormed hq.typed
  · intro description place r hdistinct hread
    have hregular := regular_of_ofDescriptionWithin Provider.standard_coherent _ _ _ hdistinct hread
    exact hregular.everywhere_guarded

/-- A map with wheels, which may have a bell besides. -/
def bicycle : Value :=
  .object
    [("tableElements", .object
      [("rulesByElements", .object [("wheels", .string "integer")]),
      ("whitelist", .array [.string "bell"])])]

/-- When the bell is declared as well, no other key is admitted, and everything is well formed. -/
theorem bicycle_withBell :
    ∃ r t bell, ofDescriptionAt Provider.standard bicycle .root = .ok r ∧
      r.tableElements = some t ∧
      ofDescriptionAt Provider.standard (.string "boolean") .root = .ok bell ∧
      (t.withElement "bell" bell).membership = .exclusive ∧
      (r.withTableElements (t.withElement "bell" bell)).Everywhere
        (WellFormed Provider.standard) ∧
      r.Everywhere Guarded := by
  obtain ⟨r, hr, htable⟩ : ∃ r, ofDescriptionAt Provider.standard bicycle .root = .ok r ∧
      r.tableElements.map TableElements.membership = some (.whitelist ["bell"]) := ⟨_, rfl, rfl⟩
  obtain ⟨t, ht, hmembership⟩ := Option.map_eq_some_iff.mp htable
  obtain ⟨bell, hbell⟩ : ∃ bell,
      ofDescriptionAt Provider.standard (.string "boolean") .root = .ok bell := ⟨_, rfl⟩
  have hdistinct : bicycle.KeysDistinct := by
    simp [bicycle, Association.keys, Value.KeysDistinct, Value.ItemsKeysDistinct,
      Value.MembersKeysDistinct]
  have hbuilt := Piece.Built.read hdistinct hr
  have hbellBuilt := Piece.Built.read (by simp [Value.KeysDistinct]) hbell
  have hwithBell := hbuilt.withTableElements ((hbuilt.table ht).withElement "bell" hbellBuilt)
  refine ⟨r, t, bell, hr, ht, hbell, ?_, wellFormed_of_built.1 _ hwithBell,
    wellFormed_of_built.2 _ _ _ hdistinct hr⟩
  simp [TableElements.withElement, hmembership, Membership.without]

end Ruleset

end Rulebook
