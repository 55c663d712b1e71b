import Rulebook.Proofs.Description.Children

/-!
# Rulesets that are read are regular

The invariant of a draft is that the ruleset which it holds so far is sound, that its parts are
regular, and that the names of its rules are taken. Every entry that is added keeps it, and
finishing puts a guard where one is missing.
-/

namespace Rulebook

open Json (Value)

/-! ## Entries -/

/-- The argument of an entry. -/
def Entry.argument : Entry → Value
  | .core _ v => v
  | .rule _ v => v

/-- The argument of an entry is what its name stands with. -/
theorem Entry.argument_named (name : String) (v : Value) : (Entry.named name v).argument = v := by
  unfold Entry.named
  split <;> rfl

/-- A name that stands alone is switched on. -/
theorem Entry.keysDistinct_bare (name : String) : (Entry.bare name).argument.KeysDistinct := by
  rw [Entry.bare, Entry.argument_named]
  trivial

/-- The entries of members have distinct keys in their arguments. -/
theorem Entry.keysDistinct_ofMembers {members : Json.Members}
    (h : (Value.object members).KeysDistinct) :
    ∀ entry ∈ Entry.ofMembers members, entry.argument.KeysDistinct := by
  intro entry hentry
  obtain ⟨m, hm, rfl⟩ := List.mem_map.mp hentry
  have hvalue := (Value.keysDistinct_object.mp h).2 m hm
  unfold Entry.ofMember
  split
  · split
    · exact Entry.keysDistinct_bare _
    · rwa [Entry.argument_named]
  · rwa [Entry.argument_named]

/-- The entries of items have distinct keys in their arguments. -/
theorem Entry.keysDistinct_ofItems {items : List Value} {entries : List Entry}
    (hitems : ∀ v ∈ items, v.KeysDistinct) (h : Entry.ofItems? items = some entries) :
    ∀ entry ∈ entries, entry.argument.KeysDistinct := by
  induction items generalizing entries with
  | nil =>
    obtain rfl := Option.some.inj h
    simp
  | cons item rest ih =>
    obtain ⟨hitem, hrest⟩ := List.forall_mem_cons.mp hitems
    unfold Entry.ofItems? at h
    split at h
    · next first others hfirst hothers =>
      obtain rfl := Option.some.inj h
      refine List.forall_mem_append.mpr ⟨?_, ih hrest hothers⟩
      unfold Entry.ofItem? at hfirst
      split at hfirst
      · obtain rfl := Option.some.inj hfirst
        simpa using Entry.keysDistinct_bare _
      · obtain rfl := Option.some.inj hfirst
        exact Entry.keysDistinct_ofMembers hitem
      · cases hfirst
    · cases h

/-- The entries of a description with distinct keys have distinct keys in their arguments. -/
theorem Entry.keysDistinct_ofDescription {v : Value} {entries : List Entry}
    (hv : v.KeysDistinct) (h : Entry.ofDescription v = .ok entries) :
    ∀ entry ∈ entries, entry.argument.KeysDistinct := by
  unfold Entry.ofDescription at h
  split at h
  · obtain rfl := Except.ok.inj h
    exact Entry.keysDistinct_ofMembers hv
  · obtain rfl := Except.ok.inj h
    simpa using Entry.keysDistinct_bare _
  · split at h
    · next hitems =>
      obtain rfl := Except.ok.inj h
      exact Entry.keysDistinct_ofItems (Value.keysDistinct_array.mp hv) hitems
    · cases h
  · cases h

/-! ## Drafts -/

namespace Draft

/-- The ruleset that a draft holds so far, without what its flags say about empty subjects. -/
def ruleset (draft : Draft) : Ruleset where
  typeRules := draft.typeRules
  patternRules := draft.patternRules
  optional := draft.optional
  nullable := draft.nullable
  emptiness := none
  alternativeEnum := draft.alternativeEnum
  alternativeRuleSet := draft.alternativeRuleSet
  tableElements := draft.tableElements
  listItems := draft.listItems

/-- The invariant of a draft. -/
structure Sound (p : Provider) (levels : Nat) (draft : Draft) : Prop where
  node : draft.ruleset.Sound p
  parts : ∀ q ∈ draft.ruleset.parts, q.Regular p levels
  /-- The names of all rules are taken. -/
  taken : ∀ q ∈ draft.ruleset.rules, q.name ∈ draft.names
  /-- The first pattern rule is remembered. -/
  first : draft.firstPattern = none → draft.patternRules = []

/-- A reader that makes regular rulesets of values with distinct keys. -/
def ReadsRegular (p : Provider) (levels : Nat) (read : RulesetReader) : Prop :=
  ∀ v place r, v.KeysDistinct → read v place = .ok r → r.Regular p levels

section Entries

variable {p : Provider} {levels : Nat} {draft next : Draft}

/-- Nothing is a sound draft. -/
theorem sound_blank : blank.Sound p levels where
  node := by
    constructor <;> simp [blank, ruleset, Ruleset.rules]
  parts := by simp [blank, ruleset, Ruleset.parts]
  taken := by simp [blank, ruleset, Ruleset.rules]
  first := fun _ => rfl

namespace Sound

/-- The parts of a draft stay regular, and more names may be taken. -/
theorem takes (h : draft.Sound p levels) (name : String) :
    { draft with names := name :: draft.names }.Sound p levels where
  node := h.node
  parts := h.parts
  taken q hq := List.mem_cons_of_mem _ (h.taken q hq)
  first := h.first

/-- A new name is not among those of the rules. -/
theorem not_mem_names (h : draft.Sound p levels) {name : String} (hname : name ∉ draft.names) :
    name ∉ draft.ruleset.rules.map Rule.name := by
  intro hmem
  obtain ⟨q, hq, rfl⟩ := List.mem_map.mp hmem
  exact hname (h.taken q hq)

/-- With a rule of a new name among them, rules still have distinct names that are taken, and
arguments with distinct keys. -/
theorem rules_of_perm (h : draft.Sound p levels) {q : Rule} {rules : List Rule}
    (hrules : rules.Perm (q :: draft.ruleset.rules))
    (harguments : ∀ v ∈ q.arguments.values, v.KeysDistinct) (hnew : q.name ∉ draft.names) :
    (rules.map Rule.name).Nodup ∧ (∀ r ∈ rules, ∀ v ∈ r.arguments.values, v.KeysDistinct) ∧
      ∀ r ∈ rules, r.name ∈ q.name :: draft.names := by
  refine ⟨?_, fun r hr => ?_, fun r hr => ?_⟩
  · refine (hrules.map Rule.name).nodup_iff.mpr ?_
    exact List.nodup_cons.mpr ⟨h.not_mem_names hnew, h.node.names⟩
  · rcases List.mem_cons.mp (hrules.mem_iff.mp hr) with rfl | hr
    · exact harguments
    · exact h.node.arguments r hr
  · rcases List.mem_cons.mp (hrules.mem_iff.mp hr) with rfl | hr
    · exact List.mem_cons_self
    · exact List.mem_cons_of_mem _ (h.taken r hr)

/-- A type-checking rule of a new name may be added. -/
theorem addTypeRule (h : draft.Sound p levels) {q : Rule} (hq : p.ChecksTypes q)
    (harguments : ∀ v ∈ q.arguments.values, v.KeysDistinct) (hnew : q.name ∉ draft.names) :
    { draft with
      names := q.name :: draft.names
      typeRules := draft.typeRules ++ [q] }.Sound p levels := by
  have hrules :
      (draft.typeRules ++ [q] ++ draft.patternRules).Perm (q :: draft.ruleset.rules) := by
    rw [List.append_assoc]
    exact List.perm_middle
  obtain ⟨hnames, harguments, htaken⟩ := h.rules_of_perm hrules harguments hnew
  have htypes := List.forall_mem_append.mpr ⟨h.node.typeRules, List.forall_mem_singleton.mpr hq⟩
  exact { h with
    node := { h.node with typeRules := htypes, names := hnames, arguments := harguments }
    taken := htaken }

/-- A pattern rule of a new name may be added. -/
theorem addPattern (h : draft.Sound p levels) (tag : TypeTag) {q : Rule}
    (hq : p.ChecksPatterns q ∨ q.Enumerates)
    (harguments : ∀ v ∈ q.arguments.values, v.KeysDistinct) (hnew : q.name ∉ draft.names) :
    ({ draft with names := q.name :: draft.names }.addPattern tag q).Sound p levels := by
  have hrules :
      (draft.typeRules ++ (draft.patternRules ++ [q])).Perm (q :: draft.ruleset.rules) := by
    rw [← List.append_assoc]
    exact List.perm_append_singleton q draft.ruleset.rules
  obtain ⟨hnames, harguments, htaken⟩ := h.rules_of_perm hrules harguments hnew
  have hpatterns :=
    List.forall_mem_append.mpr ⟨h.node.patternRules, List.forall_mem_singleton.mpr hq⟩
  refine
    { node := { h.node with patternRules := hpatterns, names := hnames, arguments := harguments }
      parts := h.parts
      taken := htaken
      first := ?_ }
  cases draft.firstPattern <;> simp [Draft.addPattern]

/-- A fallback that is regular and has no nested part may be added. -/
theorem addAlternative (h : draft.Sound p levels) {a : Ruleset} (ha : a.Regular p levels)
    (hadd : draft.addAlternative a = .ok next) : next.Sound p levels := by
  unfold Draft.addAlternative at hadd
  split at hadd
  · cases hadd
  · next hnested =>
    obtain rfl := Except.ok.inj hadd
    refine { h with node := { h.node with alternative := ?_ }, parts := ?_ }
    · rintro b hb
      rwa [← Option.some.inj hb]
    · refine Ruleset.forall_mem_parts ?_ ?_ ?_
      · rintro b hb
        rwa [← Option.some.inj hb]
      · exact fun t ht e he => h.parts _ (Ruleset.mem_parts_of_element ht he)
      · exact fun l hl => h.parts _ (Ruleset.mem_parts_of_items hl)

/-- A sound table with regular elements may be added. -/
theorem addTable (h : draft.Sound p levels) {t : TableElements Ruleset} (ht : t.Sound)
    (helements : ∀ e ∈ t.elements, e.2.Regular p levels) :
    { draft with tableElements := some t }.Sound p levels := by
  refine { h with
    node := { h.node with table := ?_ }
    parts := Ruleset.forall_mem_parts_withTableElements h.parts helements }
  rintro u hu
  rwa [← Option.some.inj hu]

/-- A sound list with regular rules for items may be added. -/
theorem addItems (h : draft.Sound p levels) {l : ListItems Ruleset} (hl : l.Sound)
    (hrules : l.itemRules.Regular p levels) :
    { draft with listItems := some l }.Sound p levels := by
  refine { h with
    node := { h.node with items := ?_ }
    parts := Ruleset.forall_mem_parts_withListItems h.parts hrules }
  rintro m hm
  rwa [← Option.some.inj hm]

/-- The values of an enumeration may be added once. -/
theorem addEnum (h : draft.Sound p levels) (hnew : CoreKey.enum.name ∉ draft.names) {v : Value}
    (hadd : Draft.addEnum { draft with names := CoreKey.enum.name :: draft.names } v = .ok next) :
    next.Sound p levels := by
  simp only [Draft.addEnum, bind_ok_iff, valuesOf_ok_iff] at hadd
  obtain ⟨values, hvalues, hadd⟩ := hadd
  obtain rfl := Except.ok.inj hadd
  obtain ⟨hnonempty, hscalar⟩ := enumValues_spec hvalues
  have hsound := h.addPattern (q := ⟨CoreKey.enum.name, .list values, .enumeration, []⟩)
    (enumTag values) (Or.inr ?_) ?_ hnew
  · exact hsound
  · exact ⟨rfl, rfl, values, rfl, hnonempty, hscalar⟩
  · exact fun w hw => keysDistinct_of_enumValueFault? (hscalar w hw)

/-- Values that rescue a subject may be added. -/
theorem addAlternativeEnum (h : draft.Sound p levels) {v : Value}
    (hadd : draft.addAlternativeEnum v = .ok next) : next.Sound p levels := by
  simp only [Draft.addAlternativeEnum, bind_ok_iff, valuesOf_ok_iff] at hadd
  obtain ⟨values, hvalues, hadd⟩ := hadd
  obtain rfl := Except.ok.inj hadd
  obtain ⟨_, hscalar⟩ := enumValues_spec hvalues
  refine { h with node := { h.node with alternativeEnum := ?_ } }
  intro others hothers
  have hothers : others = values.filter (fun v => !v.isNull) ∧ others ≠ [] := by
    simp only [ruleset] at hothers
    split at hothers
    · cases hothers
    · next hempty =>
      obtain rfl := Option.some.inj hothers
      exact ⟨rfl, by simpa using hempty⟩
  obtain ⟨rfl, hnonempty⟩ := hothers
  refine ⟨hnonempty, fun w hw => ?_⟩
  obtain ⟨hmem, hnull⟩ := List.mem_filter.mp hw
  exact enumValueFault?_of_not_null (hscalar w hmem) (by simpa using hnull)

/-- A rule of a coherent provider may be added. -/
theorem addRule (h : draft.Sound p levels) (hp : p.Coherent) {name : String} {v : Value}
    (hv : v.KeysDistinct) (hadd : draft.addRule p name v = .ok next) : next.Sound p levels := by
  unfold Draft.addRule at hadd
  split at hadd
  · cases hadd
  · next found hfound =>
    have hdescribed := Provider.resolve_spec hp hfound
    simp only [bind_ok_iff, take_ok_iff, Resolved.prepared_ok_iff] at hadd
    obtain ⟨_, ⟨hnew, rfl⟩, arguments, harguments, _, ⟨hprepared, rfl⟩, hadd⟩ := hadd
    have hfits : (found.rule arguments).FitsDescriptor p found.descriptor :=
      ⟨hdescribed, Resolved.arguments_fits (hp.arity hdescribed) harguments, hprepared⟩
    have hdistinct := Resolved.arguments_keysDistinct hv harguments
    split at hadd
    · next hchecking =>
      obtain rfl := Except.ok.inj hadd
      have hkind : (found.rule arguments).kind = .typeCheck := by
        simp [Resolved.rule, Resolved.kind, hchecking]
      exact h.addTypeRule (q := found.rule arguments) ⟨hkind, _, hchecking, hfits⟩ hdistinct hnew
    · next hchecking =>
      obtain rfl := Except.ok.inj hadd
      have hchecking : found.descriptor.isTypeChecking = false := by simpa using hchecking
      have hkind : (found.rule arguments).kind = .pattern := by
        simp [Resolved.rule, Resolved.kind, hchecking]
      exact h.addPattern (q := found.rule arguments) _ (Or.inl ⟨hkind, _, hchecking, hfits⟩)
        hdistinct hnew

/-- A core entry may be added under a name that is free. -/
theorem addCore (h : draft.Sound p levels) {read : RulesetReader}
    (hread : ReadsRegular p levels read) {place : Location} {key : CoreKey} {v : Value}
    (hv : v.KeysDistinct) (hnew : key.name ∉ draft.names)
    (hadd : Draft.addCore read place { draft with names := key.name :: draft.names } key v =
      .ok next) : next.Sound p levels := by
  have htaken := h.takes key.name
  cases key with
  | optional | nullable | empty | nonEmpty =>
    simp only [Draft.addCore, bind_ok_iff] at hadd
    obtain ⟨_, _, hadd⟩ := hadd
    obtain rfl := Except.ok.inj hadd
    exact { htaken with node := { htaken.node with } }
  | enum => exact h.addEnum hnew (located_ok_iff.mp hadd)
  | alternativeEnum => exact htaken.addAlternativeEnum (located_ok_iff.mp hadd)
  | alternativeRuleSet =>
    simp only [Draft.addCore, bind_ok_iff, located_ok_iff] at hadd
    obtain ⟨a, ha, hadd⟩ := hadd
    exact htaken.addAlternative (hread _ _ _ hv ha) hadd
  | tableElements =>
    simp only [Draft.addCore, bind_ok_iff] at hadd
    obtain ⟨t, ht, hadd⟩ := hadd
    obtain rfl := Except.ok.inj hadd
    obtain ⟨hsound, helements⟩ := TableElements.ofDescription_spec hv ht
    refine htaken.addTable hsound fun e he => ?_
    obtain ⟨w, place, hw, hr⟩ := helements e he
    exact hread _ _ _ hw hr
  | listItems =>
    simp only [Draft.addCore, bind_ok_iff] at hadd
    obtain ⟨l, hl, hadd⟩ := hadd
    obtain rfl := Except.ok.inj hadd
    obtain ⟨hsound, w, place, hw, hr⟩ := ListItems.ofDescription_spec hv hl
    exact htaken.addItems hsound (hread _ _ _ hw hr)

/-- An entry may be added. -/
theorem add (h : draft.Sound p levels) (hp : p.Coherent) {read : RulesetReader}
    (hread : ReadsRegular p levels read) {place : Location} {entry : Entry}
    (hentry : entry.argument.KeysDistinct) (hadd : draft.add p read place entry = .ok next) :
    next.Sound p levels := by
  cases entry with
  | core key v =>
    simp only [Draft.add, bind_ok_iff, located_ok_iff, take_ok_iff] at hadd
    obtain ⟨_, ⟨hnew, rfl⟩, hadd⟩ := hadd
    exact h.addCore hread hentry hnew hadd
  | rule name v => exact h.addRule hp hentry (located_ok_iff.mp hadd)

/-- Entries may be added, one after the other. -/
theorem addAll (h : draft.Sound p levels) (hp : p.Coherent) {read : RulesetReader}
    (hread : ReadsRegular p levels read) {place : Location} {entries : List Entry}
    (hentries : ∀ entry ∈ entries, entry.argument.KeysDistinct)
    (hadd : draft.addAll p read place entries = .ok next) : next.Sound p levels :=
  addAll_induction (fun entry hentry _ _ h => h.add hp hread (hentries entry hentry)) h hadd

/-- What finishes a sound draft is regular, one level up. -/
theorem finish (h : draft.Sound p levels) (hp : p.Coherent) {r : Ruleset}
    (hfinish : draft.finish p = .ok r) : r.Regular p (levels + 1) := by
  simp only [Draft.finish, bind_ok_iff] at hfinish
  obtain ⟨emptiness, _, types, htypes, hfinish⟩ := hfinish
  obtain rfl := Except.ok.inj hfinish
  have hnode : { draft.ruleset with emptiness := emptiness }.Sound p := { h.node with }
  have hparts := h.parts
  unfold guarded at htypes
  split at htypes
  · next hsome =>
    obtain rfl := Except.ok.inj htypes
    have hne : draft.typeRules ≠ [] := by simpa using hsome
    exact .node hnode (fun hnone => absurd hnone hne) hparts
  · next hnone =>
    have hnone : draft.typeRules = [] := by simpa using hnone
    have hguard {name : String} (hname : p.IsGuard name)
        (heq : types = [injected name]) : Ruleset.Regular p (levels + 1)
          { draft.ruleset with typeRules := types, emptiness := emptiness } := by
      subst heq
      exact .node (hnode.withGuard hp hname hnone) (fun h => by cases h) hparts
    split at htypes
    · exact hguard hp.containerGuard (Except.ok.inj htypes).symm
    · next hchildren =>
      split at htypes
      · split at htypes
        · next hname => exact hguard (hp.typeGuard hname) (Except.ok.inj htypes).symm
        · cases htypes
      · next hfirst =>
        split at htypes
        · next hemptiness =>
          obtain rfl := Except.ok.inj htypes
          have hsound := hnode
          simp only [ruleset, hnone] at hsound
          refine .node hsound (fun _ => ⟨h.first hfirst, ?_, hemptiness⟩) hparts
          simpa [Ruleset.hasChildren] using hchildren
        · cases htypes

end Sound

end Entries

end Draft

/-- A ruleset that a coherent provider reads is regular. -/
theorem Ruleset.regular_of_ofDescriptionWithin {p : Provider} (hp : p.Coherent) {levels : Nat} :
    Draft.ReadsRegular p levels (Ruleset.ofDescriptionWithin p levels) := by
  induction levels with
  | zero =>
    intro v place r _ h
    cases h
  | succ levels ih =>
    intro v place r hv h
    simp only [ofDescriptionWithin, bind_ok_iff, located_ok_iff] at h
    obtain ⟨entries, hentries, draft, hdraft, hfinish⟩ := h
    have hdistinct := Entry.keysDistinct_ofDescription hv hentries
    have hsound := Draft.sound_blank.addAll hp ih hdistinct hdraft
    exact hsound.finish hp hfinish

end Rulebook
