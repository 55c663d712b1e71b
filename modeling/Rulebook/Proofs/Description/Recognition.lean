import Rulebook.Proofs.Description.Adding

/-!
# The reading recognizes the language

What a draft shows of the entries so far are their names and the marks that they leave, so that it
takes entries with names apart from each other, and can be finished if there is something to
evaluate. A ruleset is read from a value exactly if the value describes one.
-/

namespace Rulebook

open Json (Value Members)

/-- A provider has a guard for every tag for which a description may need one. -/
structure Provider.GuardsAll (p : Provider) : Prop where
  rule : ∀ {name d}, p.descriptor name = some d → d.isTypeChecking = false →
    (p.typeGuard d.semanticType).isSome = true
  values : ∀ values, (p.typeGuard (enumTag values)).isSome = true

/-- The standard provider has all guards. -/
theorem Provider.standard_guardsAll [PatternEngine] : Provider.standard.GuardsAll where
  rule := by
    intro name d h hchecking
    obtain ⟨r, _, rfl⟩ := Option.map_eq_some_iff.mp h
    rw [Provider.standard, Option.isSome_map]
    revert hchecking
    cases r <;> decide
  values := by
    intro values
    rw [Provider.standard, Option.isSome_map]
    unfold enumTag
    repeat' split
    all_goals decide

/-- What entries leave in a draft. -/
inductive Draft.Mark where
  /-- A rule, or the values of an enumeration. -/
  | rules
  | empty
  | nonEmpty
  | alternative
  | table
  | items
  deriving DecidableEq

/-- The core name under which alone a mark is left. -/
def Draft.Mark.key? : Draft.Mark → Option CoreKey
  | .rules => none
  | .empty => some .empty
  | .nonEmpty => some .nonEmpty
  | .alternative => some .alternativeRuleSet
  | .table => some .tableElements
  | .items => some .listItems

/-- An entry leaves a mark. -/
def Entry.Leaves : Entry → Draft.Mark → Prop
  | .rule _ _, .rules => True
  | .core .enum _, .rules => True
  | .core .empty v, .empty => v = .bool true
  | .core .nonEmpty v, .nonEmpty => v = .bool true
  | .core .alternativeRuleSet _, .alternative => True
  | .core .tableElements _, .table => True
  | .core .listItems _, .items => True
  | _, _ => False

/-- The entry that leaves a mark stands under its core name. -/
theorem Entry.Leaves.eq_core {entry : Entry} {mark : Draft.Mark} {key : CoreKey}
    (h : entry.Leaves mark) (hkey : mark.key? = some key) : ∃ v, entry = .core key v := by
  unfold Entry.Leaves at h
  split at h
  all_goals first | cases hkey; exact ⟨_, rfl⟩ | cases hkey | cases h

namespace Draft

variable {p : Provider} {read : RulesetReader} {form : Value → Prop} {place : Location}
  {draft next : Draft}

/-- A draft bears a mark. -/
def Bears (draft : Draft) : Mark → Prop
  | .rules => draft.typeRules ≠ [] ∨ draft.firstPattern.isSome = true
  | .empty => draft.empty = true
  | .nonEmpty => draft.nonEmpty = true
  | .alternative => draft.alternativeRuleSet.isSome = true
  | .table => draft.tableElements.isSome = true
  | .items => draft.listItems.isSome = true

/-- The first pattern rule of a draft can be guarded, if there is one. -/
def Guardable (p : Provider) (draft : Draft) : Prop :=
  ∀ first, draft.firstPattern = some first → (p.typeGuard first.1).isSome = true

/-- Names are no marks. -/
theorem bears_names_iff {names : List String} {mark : Mark} :
    { draft with names := names }.Bears mark ↔ draft.Bears mark := by
  cases mark <;> rfl

/-- A change keeps the names that are taken. -/
theorem Changes.names {entry : Entry} (h : draft.Changes p entry next) :
    next.names = draft.names := by
  cases h <;> rfl

/-- A change adds the marks of the entry, if no flag is set again. -/
theorem Changes.bears_iff {entry : Entry} (h : draft.Changes p entry next)
    (hempty : ∀ v, entry = .core .empty v → draft.empty = false)
    (hnonEmpty : ∀ v, entry = .core .nonEmpty v → draft.nonEmpty = false) (mark : Mark) :
    next.Bears mark ↔ draft.Bears mark ∨ entry.Leaves mark := by
  cases h with
  | empty b => cases mark <;> simp [Bears, Entry.Leaves, hempty (.bool b) rfl]
  | nonEmpty b => cases mark <;> simp [Bears, Entry.Leaves, hnonEmpty (.bool b) rfl]
  | enum | patternRule =>
    cases mark <;> cases draft.firstPattern <;> simp [Bears, Entry.Leaves, addPattern]
  | _ => cases mark <;> simp [Bears, Entry.Leaves]

/-- What a draft tells of the entries that were added: their names, their marks, and that the first
pattern rule can be guarded. -/
structure Tells (p : Provider) (entries : List Entry) (draft : Draft) : Prop where
  names : ∀ name, name ∈ draft.names ↔ ∃ entry ∈ entries, entry.Takes p name
  marks : ∀ mark, draft.Bears mark ↔ ∃ entry ∈ entries, entry.Leaves mark
  guardable : draft.Guardable p

/-- Nothing tells of no entries. -/
theorem tells_blank : blank.Tells p [] where
  names := by simp [blank]
  marks mark := by cases mark <;> simp [Bears, blank]
  guardable _ h := by cases h

/-- A pattern rule with a guard leaves the first pattern rule guardable. -/
theorem Guardable.addPattern (h : draft.Guardable p) {tag : TypeTag}
    (htag : (p.typeGuard tag).isSome = true) (q : Rule) :
    (draft.addPattern tag q).Guardable p := by
  intro first hfirst
  cases hold : draft.firstPattern with
  | none =>
    obtain rfl : (tag, q.name) = first := by simpa [Draft.addPattern, hold] using hfirst
    exact htag
  | some old =>
    obtain rfl : old = first := by simpa [Draft.addPattern, hold] using hfirst
    exact h old hold

/-- A change keeps the first pattern rule guardable. -/
theorem Changes.guardable (hguards : p.GuardsAll) {entry : Entry}
    (h : draft.Changes p entry next) (hdraft : draft.Guardable p) : next.Guardable p := by
  cases h with
  | enum v values q => exact hdraft.addPattern (hguards.values values) q
  | patternRule name v q described checking =>
    exact hdraft.addPattern (hguards.rule described checking) q
  | _ => exact hdraft

/-- A draft does not bear a mark whose core name is free. -/
theorem Tells.not_bears {entries : List Entry} (h : draft.Tells p entries) (mark : Mark)
    {key : CoreKey} (hkey : mark.key? = some key) (hfree : key.name ∉ draft.names) :
    ¬draft.Bears mark := by
  intro hbears
  obtain ⟨entry, hentry, hleaves⟩ := (h.marks mark).mp hbears
  obtain ⟨v, rfl⟩ := hleaves.eq_core hkey
  exact hfree ((h.names key.name).mpr ⟨_, hentry, .core key v⟩)

/-- A draft to which an entry is added tells of that entry, too. -/
theorem Tells.add {entries : List Entry} (h : draft.Tells p entries) (hp : p.Coherent)
    (hguards : p.GuardsAll) (hread : Recognizes read form) {entry : Entry}
    (hadd : draft.add p read place entry = .ok next) : next.Tells p (entries ++ [entry]) := by
  obtain ⟨name, htakes, hchanges⟩ := changes_of_add hp hadd
  have hfree := ((succeeds_add_iff hp hread place).mp ⟨next, hadd⟩).2
  -- A flag is set anew by its entry, so it must not have been set before.
  have hempty : ∀ v, entry = .core .empty v → draft.empty = false := by
    rintro v rfl
    simpa [Bears] using h.not_bears .empty rfl (hfree _ (.core .empty v))
  have hnonEmpty : ∀ v, entry = .core .nonEmpty v → draft.nonEmpty = false := by
    rintro v rfl
    simpa [Bears] using h.not_bears .nonEmpty rfl (hfree _ (.core .nonEmpty v))
  constructor
  · intro other
    have hother : entry.Takes p other ↔ other = name :=
      ⟨fun hentry => hentry.unique htakes, fun heq => heq ▸ htakes⟩
    simp [hchanges.names, h.names, or_and_right, exists_or, hother, or_comm]
  · intro mark
    simp [hchanges.bears_iff hempty hnonEmpty, bears_names_iff, h.marks, or_and_right, exists_or]
  · exact hchanges.guardable hguards h.guardable

/-! ## Adding entries -/

/-- Entries are added if each of them is accepted, and their names are apart from each other and
from those of the entries before. -/
theorem succeeds_addAll_iff (hp : p.Coherent) (hguards : p.GuardsAll)
    (hread : Recognizes read form) (place : Location) {before : List Entry}
    (h : draft.Tells p before) (entries : List Entry) :
    Succeeds (draft.addAll p read place entries) ↔
      (∀ entry ∈ entries, entry.Accepted p form) ∧ entries.Pairwise (Entry.Apart p) ∧
        ∀ a ∈ before, ∀ b ∈ entries, Entry.Apart p a b := by
  -- The entries before are generalized: each entry that is added becomes one of them.
  induction entries generalizing draft before with
  | nil => simp [addAll]
  | cons entry rest ih =>
    have hfree : (∀ name, entry.Takes p name → name ∉ draft.names) ↔
        ∀ a ∈ before, Entry.Apart p a entry := by
      simp only [h.names, Entry.Apart, not_exists, not_and]
      exact ⟨fun h a ha name htakes hentry => h name hentry a ha htakes,
        fun h name hentry a ha htakes => h a ha name htakes hentry⟩
    rw [addAll, succeeds_bind_iff, List.forall_mem_cons, List.pairwise_cons]
    constructor
    · rintro ⟨next, hadd, hrest⟩
      obtain ⟨haccepted, hapart⟩ := (succeeds_add_iff hp hread place).mp ⟨next, hadd⟩
      obtain ⟨hothers, hdistinct, hbefore⟩ := (ih (h.add hp hguards hread hadd)).mp hrest
      obtain ⟨hbefore, hentry⟩ := List.forall_mem_append.mp hbefore
      refine ⟨⟨haccepted, hothers⟩, ⟨hentry entry List.mem_cons_self, hdistinct⟩, fun a ha => ?_⟩
      exact List.forall_mem_cons.mpr ⟨hfree.mp hapart a ha, hbefore a ha⟩
    · rintro ⟨⟨haccepted, hothers⟩, ⟨hentry, hdistinct⟩, hbefore⟩
      have hapart := hfree.mpr fun a ha => hbefore a ha entry List.mem_cons_self
      obtain ⟨next, hadd⟩ := (succeeds_add_iff hp hread place).mpr ⟨haccepted, hapart⟩
      refine ⟨next, hadd, (ih (h.add hp hguards hread hadd)).mpr ⟨hothers, hdistinct, ?_⟩⟩
      refine List.forall_mem_append.mpr ⟨fun a ha b hb => ?_, List.forall_mem_singleton.mpr hentry⟩
      exact hbefore a ha b (List.mem_cons_of_mem _ hb)

/-- A draft to which entries are added tells of them, too. -/
theorem Tells.addAll (hp : p.Coherent) (hguards : p.GuardsAll) (hread : Recognizes read form)
    {before entries : List Entry} (h : draft.Tells p before)
    (hadd : draft.addAll p read place entries = .ok next) : next.Tells p (before ++ entries) := by
  induction entries generalizing draft before with
  | nil =>
    obtain rfl := Except.ok.inj hadd
    simpa using h
  | cons entry rest ih =>
    simp only [Draft.addAll, bind_ok_iff] at hadd
    obtain ⟨middle, hfirst, hrest⟩ := hadd
    simpa using ih (h.add hp hguards hread hfirst) hrest

/-- A draft that starts from nothing tells of the entries that are added. -/
theorem tells_of_addAll (hp : p.Coherent) (hguards : p.GuardsAll) (hread : Recognizes read form)
    {entries : List Entry} (hadd : blank.addAll p read place entries = .ok draft) :
    draft.Tells p entries :=
  tells_blank.addAll hp hguards hread hadd

/-! ## Finishing -/

/-- Flags that do not contradict each other say something about empty subjects if one is set. -/
theorem succeeds_emptiness_iff :
    Succeeds draft.emptiness ↔ ¬(draft.Bears .empty ∧ draft.Bears .nonEmpty) := by
  unfold emptiness Bears
  cases draft.empty <;> cases draft.nonEmpty <;> simp

/-- Something is said about empty subjects if a flag is set. -/
theorem isSome_emptiness_iff {emptiness : Option Emptiness} (h : draft.emptiness = .ok emptiness) :
    emptiness.isSome = true ↔ draft.Bears .empty ∨ draft.Bears .nonEmpty := by
  unfold Draft.emptiness at h
  split at h
  · cases h
  all_goals
    obtain rfl := Except.ok.inj h
    simp_all [Bears]

/-- A draft whose first pattern rule can be guarded has a guard, or needs none, if there is
something to evaluate. -/
theorem succeeds_guarded_iff (hguardable : draft.Guardable p) {emptiness : Option Emptiness} :
    Succeeds (draft.guarded p emptiness) ↔
      draft.Bears .rules ∨ draft.Bears .table ∨ draft.Bears .items ∨ emptiness.isSome = true := by
  unfold guarded Bears
  split
  · next htypes =>
    have htypes : draft.typeRules ≠ [] := by simpa using htypes
    simp [htypes]
  · next htypes =>
    have htypes : draft.typeRules = [] := by simpa using htypes
    split
    · next hchildren =>
      have hchildren : draft.tableElements.isSome = true ∨ draft.listItems.isSome = true := by
        simpa using hchildren
      simp only [succeeds_ok, true_iff]
      exact hchildren.elim (fun h => Or.inr (Or.inl h)) fun h => Or.inr (Or.inr (Or.inl h))
    · next hchildren =>
      obtain ⟨htable, hitems⟩ :
          draft.tableElements.isSome = false ∧ draft.listItems.isSome = false := by
        simpa using hchildren
      cases hfirst : draft.firstPattern with
      | some first =>
        obtain ⟨guard, hguard⟩ := Option.isSome_iff_exists.mp (hguardable first hfirst)
        simp [hguard]
      | none =>
        simp only [htypes, htable, hitems]
        split <;> simp [*]

/-- A draft whose first pattern rule can be guarded is finished if its flags do not contradict each
other and there is something to evaluate. -/
theorem succeeds_finish_iff (hguardable : draft.Guardable p) :
    Succeeds (draft.finish p) ↔
      ¬(draft.Bears .empty ∧ draft.Bears .nonEmpty) ∧
        ∃ mark, mark ≠ .alternative ∧ draft.Bears mark := by
  have hmark : (∃ mark, mark ≠ .alternative ∧ draft.Bears mark) ↔
      draft.Bears .rules ∨ draft.Bears .table ∨ draft.Bears .items ∨
        draft.Bears .empty ∨ draft.Bears .nonEmpty := by
    constructor
    · rintro ⟨mark, hne, hbears⟩
      cases mark <;> simp_all
    · rintro (h | h | h | h | h) <;> exact ⟨_, by simp, h⟩
  rw [hmark, ← succeeds_emptiness_iff, finish, succeeds_bind_iff]
  simp only [succeeds_bind_ok_iff, succeeds_guarded_iff hguardable]
  constructor
  · rintro ⟨emptiness, hemptiness, h⟩
    rw [isSome_emptiness_iff hemptiness] at h
    exact ⟨⟨emptiness, hemptiness⟩, h⟩
  · rintro ⟨⟨emptiness, hemptiness⟩, h⟩
    rw [← isSome_emptiness_iff hemptiness] at h
    exact ⟨emptiness, hemptiness, h⟩

/-- A finished draft keeps the parts that a fallback must not have. -/
theorem nestedPart?_of_finish {r : Ruleset} (h : draft.finish p = .ok r) :
    nestedPart? r = none ↔
      ¬draft.Bears .alternative ∧ ¬draft.Bears .table ∧ ¬draft.Bears .items := by
  simp only [finish, bind_ok_iff] at h
  obtain ⟨_, _, _, _, h⟩ := h
  obtain rfl := Except.ok.inj h
  unfold nestedPart? Bears
  cases draft.alternativeRuleSet <;> cases draft.tableElements <;> cases draft.listItems <;> simp

end Draft

/-! ## Reading -/

/-- A mark that every entry under one core name leaves, and no other, is left if the name is
declared. -/
theorem Json.Value.declares_iff (v : Value) (mark : Draft.Mark) {key : CoreKey}
    (hkey : mark.key? = some key) (hleaves : ∀ argument, (Entry.core key argument).Leaves mark) :
    (∃ entry ∈ v.entries, entry.Leaves mark) ↔ v.Declares key := by
  constructor
  · rintro ⟨entry, hentry, h⟩
    obtain ⟨argument, rfl⟩ := h.eq_core hkey
    exact ⟨argument, hentry⟩
  · rintro ⟨argument, hentry⟩
    exact ⟨_, hentry, hleaves argument⟩

/-- The mark of a flag is left if the flag is on. -/
theorem Json.Value.switchesOn_iff (v : Value) (mark : Draft.Mark) {key : CoreKey}
    (hkey : mark.key? = some key)
    (hleaves : ∀ argument, (Entry.core key argument).Leaves mark ↔ argument = .bool true) :
    (∃ entry ∈ v.entries, entry.Leaves mark) ↔ .core key (.bool true) ∈ v.entries := by
  constructor
  · rintro ⟨entry, hentry, h⟩
    obtain ⟨argument, rfl⟩ := h.eq_core hkey
    rwa [← (hleaves argument).mp h]
  · exact fun hentry => ⟨_, hentry, (hleaves _).mpr rfl⟩

/-- An entry gives something to evaluate if it leaves a mark that is not the one of a fallback. -/
theorem Entry.evaluates_iff {entry : Entry} :
    entry.Evaluates ↔ ∃ mark, mark ≠ .alternative ∧ entry.Leaves mark := by
  constructor
  · intro h
    unfold Entry.Evaluates at h
    split at h
    · exact ⟨.rules, by simp, h⟩
    · exact ⟨.rules, by simp, h⟩
    · exact ⟨.table, by simp, h⟩
    · exact ⟨.items, by simp, h⟩
    · exact ⟨.empty, by simp, h⟩
    · exact ⟨.nonEmpty, by simp, h⟩
    · cases h
  · rintro ⟨mark, hne, h⟩
    unfold Entry.Leaves at h
    split at h <;> simp_all [Entry.Evaluates]

namespace Ruleset

variable {p : Provider} {levels : Nat} {form : Value → Prop}

/-- A ruleset is read one level up from a value that is one by itself, if the descriptions inside
are read. -/
theorem succeeds_ofDescriptionWithin_succ_iff (hp : p.Coherent) (hguards : p.GuardsAll)
    (hread : Recognizes (ofDescriptionWithin p levels) form) (v : Value) (place : Location) :
    Succeeds (ofDescriptionWithin p (levels + 1) v place) ↔
      v.IsNode p ∧ ∀ entry ∈ v.entries, ∀ w, entry.Holds w → form w := by
  have hadd := Draft.succeeds_addAll_iff hp hguards hread place Draft.tells_blank v.entries
  have hfinish (draft : Draft)
      (hdraft : Draft.blank.addAll p (ofDescriptionWithin p levels) place v.entries = .ok draft) :
      Succeeds (draft.finish p) ↔
        ¬(.core .empty (.bool true) ∈ v.entries ∧ .core .nonEmpty (.bool true) ∈ v.entries) ∧
          ∃ entry ∈ v.entries, entry.Evaluates := by
    have htells := Draft.tells_of_addAll hp hguards hread hdraft
    have hevaluates : (∃ mark, mark ≠ .alternative ∧ draft.Bears mark) ↔
        ∃ entry ∈ v.entries, entry.Evaluates := by
      simp only [htells.marks, Entry.evaluates_iff]
      constructor
      · rintro ⟨mark, hne, entry, hentry, hleaves⟩
        exact ⟨entry, hentry, mark, hne, hleaves⟩
      · rintro ⟨entry, hentry, mark, hne, hleaves⟩
        exact ⟨mark, hne, entry, hentry, hleaves⟩
    rw [Draft.succeeds_finish_iff htells.guardable, hevaluates, htells.marks, htells.marks,
      v.switchesOn_iff .empty rfl fun _ => Iff.rfl, v.switchesOn_iff .nonEmpty rfl fun _ => Iff.rfl]
  simp only [ofDescriptionWithin, succeeds_bind_iff, located_ok_iff, succeeds_located_iff,
    Entry.ofDescription_ok_iff]
  constructor
  · rintro ⟨_, ⟨hlists, rfl⟩, draft, hdraft, hfinished⟩
    obtain ⟨haccepted, hdistinct, _⟩ := hadd.mp ⟨draft, hdraft⟩
    obtain ⟨hconsistent, hevaluates⟩ := (hfinish draft hdraft).mp hfinished
    exact ⟨⟨hlists, fun entry hentry => (haccepted entry hentry).1, hdistinct, hconsistent,
      hevaluates⟩, fun entry hentry => (haccepted entry hentry).2⟩
  · rintro ⟨hnode, hinside⟩
    obtain ⟨draft, hdraft⟩ := hadd.mpr
      ⟨fun entry hentry => ⟨hnode.wellFormed entry hentry, hinside entry hentry⟩, hnode.distinct,
        by simp⟩
    exact ⟨v.entries, ⟨hnode.lists, rfl⟩, draft, hdraft,
      (hfinish draft hdraft).mpr ⟨hnode.consistent, hnode.evaluates⟩⟩

/-- A ruleset that is read has the parts that its description declares. -/
theorem nestedPart?_of_ofDescriptionWithin (hp : p.Coherent) (hguards : p.GuardsAll)
    (hread : Recognizes (ofDescriptionWithin p levels) form) {v : Value} {place : Location}
    {r : Ruleset} (h : ofDescriptionWithin p (levels + 1) v place = .ok r) :
    Draft.nestedPart? r = none ↔
      ¬v.Declares .alternativeRuleSet ∧ ¬v.Declares .tableElements ∧ ¬v.Declares .listItems := by
  simp only [ofDescriptionWithin, bind_ok_iff, located_ok_iff, Entry.ofDescription_ok_iff] at h
  obtain ⟨_, ⟨_, rfl⟩, draft, hdraft, hfinish⟩ := h
  have htells := Draft.tells_of_addAll hp hguards hread hdraft
  rw [Draft.nestedPart?_of_finish hfinish, htells.marks, htells.marks, htells.marks,
    v.declares_iff .alternative rfl fun _ => trivial, v.declares_iff .table rfl fun _ => trivial,
    v.declares_iff .items rfl fun _ => trivial]

/-- With so many levels left, the reading recognizes the descriptions of rulesets. -/
theorem recognizes_ofDescriptionWithin (hp : p.Coherent) (hguards : p.GuardsAll) (depth : Nat)
    (hdepth : levels = maxDepth + 1 - depth) :
    Recognizes (ofDescriptionWithin p levels) (Value.DescribesRuleset p depth) := by
  induction levels generalizing depth with
  | zero =>
    refine ⟨fun v place => ?_, fun h => by cases h⟩
    simp only [ofDescriptionWithin, not_succeeds_error, false_iff]
    rintro ⟨hle, _⟩
    omega
  | succ levels ih =>
    have hread := ih (depth + 1) (by omega)
    refine ⟨fun v place => ?_, nestedPart?_of_ofDescriptionWithin hp hguards hread⟩
    rw [succeeds_ofDescriptionWithin_succ_iff hp hguards hread]
    constructor
    · rintro ⟨hnode, hinside⟩
      exact .node (by omega) hnode hinside
    · rintro ⟨_, hnode, hinside⟩
      exact ⟨hnode, hinside⟩

/-- The standard provider reads a ruleset from a value at a place exactly if the value describes one
at that depth. -/
theorem exists_ofDescriptionAt_iff [PatternEngine] (description : Value) (place : Location) :
    (∃ r, ofDescriptionAt Provider.standard description place = .ok r) ↔
      description.DescribesRuleset Provider.standard place.depth := by
  have hread := recognizes_ofDescriptionWithin Provider.standard_coherent
    Provider.standard_guardsAll place.depth rfl
  exact hread.exact description place

end Ruleset

end Rulebook
