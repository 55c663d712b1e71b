import Rulebook.Proofs.Description.ChildrenRoundTrip

/-!
# Members as changes of drafts

What is read for a member of a canonical description is a change of the draft. Members in a row
change it one after the other, and those of a whole ruleset change nothing into the draft of the
ruleset.
-/

namespace Rulebook

open Json (Value Members)

namespace Draft

variable {p : Provider} {read : RulesetReader} {place : Location}

/-- Members of an object are read as a change of a draft, if their keys are distinct and free. -/
def Adds (p : Provider) (read : RulesetReader) (place : Location) (members : Members)
    (change : Draft → Draft) : Prop :=
  ∀ draft : Draft, (Association.keys members).Nodup →
    (∀ key ∈ Association.keys members, key ∉ draft.names) →
    draft.addAll p read place (Entry.ofMembers members) =
      .ok { change draft with names := (Association.keys members).reverse ++ draft.names }

/-- Entries are added one part after the other. -/
theorem addAll_append (draft : Draft) (first others : List Entry) :
    draft.addAll p read place (first ++ others) =
      draft.addAll p read place first >>= fun draft => draft.addAll p read place others := by
  induction first generalizing draft with
  | nil => rfl
  | cons entry rest ih =>
    rw [List.cons_append, addAll, addAll]
    cases draft.add p read place entry with
    | error e => rfl
    | ok middle => exact ih middle

namespace Adds

variable {members others : Members} {change next : Draft → Draft}

/-- No members change nothing. -/
theorem nil (h : ∀ draft, change draft = draft) : Adds p read place [] change := by
  intro draft _ _
  rw [h]
  rfl

/-- Members in a row change a draft one after the other, if the second change is blind to names. -/
theorem append (h : Adds p read place members change) (hothers : Adds p read place others next)
    (hblind : ∀ (draft : Draft) names,
      next { draft with names := names } = { next draft with names := names }) :
    Adds p read place (members ++ others) (next ∘ change) := by
  intro draft hnodup hfree
  have hkeys : Association.keys (members ++ others) =
      Association.keys members ++ Association.keys others := List.map_append
  rw [hkeys] at hnodup hfree ⊢
  obtain ⟨hfirst, hsecond, hdisjoint⟩ := List.nodup_append.mp hnodup
  have hentries : Entry.ofMembers (members ++ others) =
      Entry.ofMembers members ++ Entry.ofMembers others := List.map_append
  have hmembers := h draft hfirst fun key hkey => hfree key (List.mem_append_left _ hkey)
  rw [hentries, addAll_append, hmembers]
  refine (hothers _ hsecond ?_).trans ?_
  · intro key hkey hmem
    rcases List.mem_append.mp hmem with htaken | hnames
    · exact hdisjoint key (List.mem_reverse.mp htaken) key hkey rfl
    · exact hfree key (List.mem_append_right _ hkey) hnames
  · rw [hblind]
    simp

/-- A member changes a draft as its entry does. -/
theorem single {key : String} {v : Value}
    (h : ∀ draft : Draft, key ∉ draft.names →
      draft.add p read place (Entry.ofMember key v) =
        .ok { change draft with names := key :: draft.names }) :
    Adds p read place [(key, v)] change := by
  intro draft _ hfree
  have hkey := h draft (hfree key List.mem_cons_self)
  simp [Entry.ofMembers, addAll, hkey, bind, Except.bind, Association.keys]

/-- A core member changes a draft as the core entry does. -/
theorem core (key : CoreKey) {v : Value} (hv : v.string? = none)
    (h : ∀ draft : Draft, addCore read place { draft with names := key.name :: draft.names } key v =
      .ok { change draft with names := key.name :: draft.names }) :
    Adds p read place [(key.name, v)] change := by
  have hentry : Entry.ofMember key.name v = .core key v := by
    have hnamed : Entry.named key.name v = .core key v := by
      cases key <;> rfl
    cases v <;> first
      | exact hnamed
      | cases hv
  refine single fun draft hfree => ?_
  rw [hentry]
  exact bind_ok_iff.mpr ⟨_, located_ok_iff.mpr (take_ok_iff.mpr ⟨hfree, rfl⟩), h draft⟩

/-! ## Flags -/

/-- The flag of optional elements. -/
theorem optional (b : Bool) :
    Adds p read place (flagMember CoreKey.optional.name b)
      fun draft => { draft with optional := draft.optional || b } := by
  cases b with
  | true =>
    exact core .optional rfl fun draft => by simp [addCore, flagOf, located, bind, Except.bind]
  | false => exact nil fun draft => by simp

/-- The flag of nullable subjects. -/
theorem nullable (b : Bool) :
    Adds p read place (flagMember CoreKey.nullable.name b)
      fun draft => { draft with nullable := draft.nullable || b } := by
  cases b with
  | true =>
    exact core .nullable rfl fun draft => by simp [addCore, flagOf, located, bind, Except.bind]
  | false => exact nil fun draft => by simp

/-- The flags for empty subjects. -/
theorem emptiness (emptiness : Option Emptiness) :
    Adds p read place (emptinessMember emptiness) fun draft =>
      { draft with
        empty := draft.empty || emptiness == some .empty
        nonEmpty := draft.nonEmpty || emptiness == some .nonEmpty } := by
  cases emptiness with
  | none => exact nil fun draft => by simp
  | some e =>
    cases e with
    | empty =>
      exact core .empty rfl fun draft => by
        simp [addCore, flagOf, located, bind, Except.bind]
    | nonEmpty =>
      exact core .nonEmpty rfl fun draft => by
        simp [addCore, flagOf, located, bind, Except.bind]

/-! ## Rules -/

/-- The name of a described rule is no core name. -/
theorem ofName?_of_described (hp : p.Coherent) {name : String} {d : Descriptor}
    (h : p.descriptor name = some d) : CoreKey.ofName? name = none := by
  refine List.find?_eq_none.mpr fun key _ heq => ?_
  have hnone := hp.core_free key
  rw [beq_iff_eq.mp heq, h] at hnone
  cases hnone

/-- Arguments that fit a rule are read from their description. -/
theorem arguments_toJson {d : Descriptor} {arguments : Arguments} (h : arguments.Fits d) :
    Resolved.arguments ⟨d, []⟩ arguments.toJson = .ok arguments := by
  cases arguments with
  | flag =>
    have htakes : Resolved.takes ⟨d, []⟩ 0 = true :=
      Resolved.takes_iff.mpr ⟨Nat.le_of_eq h, Nat.zero_le _⟩
    simp [Arguments.toJson, Resolved.arguments, htakes]
  | list values =>
    obtain ⟨hleast, hmost, hsome⟩ := h
    have htakes : Resolved.takes ⟨d, []⟩ values.length = true :=
      Resolved.takes_iff.mpr ⟨hleast, hmost⟩
    simpa [Arguments.toJson, Resolved.arguments, htakes] using hsome

/-- A rule that fits its description is read from its member. -/
theorem add_rule (hp : p.Coherent) {q : Rule} {d : Descriptor} (hfits : q.FitsDescriptor p d)
    {draft : Draft} (hfree : q.name ∉ draft.names) :
    draft.add p read place (Entry.ofMember q.name q.arguments.toJson) =
      .ok (if d.isTypeChecking then
          { draft with
            names := q.name :: draft.names
            typeRules := draft.typeRules ++ [Resolved.rule ⟨d, []⟩ q.arguments] }
        else
          { draft with names := q.name :: draft.names }.addPattern d.semanticType
            (Resolved.rule ⟨d, []⟩ q.arguments)) := by
  have hname := hp.name_eq hfits.described
  have hentry : Entry.ofMember q.name q.arguments.toJson = .rule q.name q.arguments.toJson := by
    cases q.arguments <;>
      simp [Entry.ofMember, Entry.named, Arguments.toJson, ofName?_of_described hp hfits.described]
  have hresolve : p.resolve q.name = .ok ⟨d, []⟩ := by
    simp [Provider.resolve, Provider.resolveWithin, hfits.described]
  have hprepared : p.prepare d.name q.arguments.values = .ok () := hname ▸ hfits.prepared
  rw [hentry]
  refine located_ok_iff.mpr ?_
  simp only [addRule, hresolve]
  refine bind_ok_iff.mpr ⟨_, take_ok_iff.mpr ⟨hname ▸ hfree, rfl⟩, ?_⟩
  refine bind_ok_iff.mpr ⟨_, arguments_toJson hfits.arguments, ?_⟩
  refine bind_ok_iff.mpr ⟨_, Resolved.prepared_ok_iff.mpr ⟨hprepared, rfl⟩, ?_⟩
  rw [hname]
  split <;> rfl

/-- The member of a type-checking rule. -/
theorem typeRule (hp : p.Coherent) {q : Rule} (hq : p.ChecksTypes q) :
    Adds p read place [(q.name, q.arguments.toJson)]
      fun draft => { draft with typeRules := draft.typeRules ++ [q.plain] } := by
  obtain ⟨hkind, d, hchecking, hfits⟩ := hq
  have hplain : Resolved.rule ⟨d, []⟩ q.arguments = q.plain := by
    simp [Resolved.rule, Resolved.kind, Rule.plain, hchecking, hkind, hp.name_eq hfits.described]
  refine single fun draft hfree => ?_
  rw [add_rule hp hfits hfree, if_pos hchecking, hplain]

/-- The members of type-checking rules. -/
theorem typeRules (hp : p.Coherent) {rules : List Rule} (h : ∀ q ∈ rules, p.ChecksTypes q) :
    Adds p read place (ruleMembers rules)
      fun draft => { draft with typeRules := draft.typeRules ++ rules.map Rule.plain } := by
  induction rules with
  | nil => exact nil fun draft => by simp
  | cons q rest ih =>
    obtain ⟨hq, hrest⟩ := List.forall_mem_cons.mp h
    have hone : Adds p read place _ _ := typeRule hp hq
    have hall := hone.append (ih hrest) fun _ _ => rfl
    simpa [Function.comp_def, ruleMembers] using hall

/-- The member of a pattern rule. -/
theorem patternRule (hp : p.Coherent) {q : Rule} (hq : p.ChecksPatterns q) :
    ∃ tag, Adds p read place [(q.name, q.arguments.toJson)]
      fun draft => draft.addPattern tag q.plain := by
  obtain ⟨hkind, d, hchecking, hfits⟩ := hq
  have hplain : Resolved.rule ⟨d, []⟩ q.arguments = q.plain := by
    simp [Resolved.rule, Resolved.kind, Rule.plain, hchecking, hkind, hp.name_eq hfits.described]
  refine ⟨d.semanticType, single fun draft hfree => ?_⟩
  rw [add_rule hp hfits hfree, hplain]
  simp [hchecking, addPattern]

/-- The values of an enumeration are read from a list of them. -/
theorem enumValues_of_scalars (allowsNull : Bool) {values : List Value} (h : ScalarList values) :
    enumValues allowsNull (.array values) = .ok values := by
  have hscalar : ∀ v ∈ values, enumValueFault? allowsNull v = none := by
    intro v hv
    have hfault := h.scalar v hv
    cases v <;> simp_all [enumValueFault?]
  have hunwrapped : unwrapped values = values := by
    unfold unwrapped
    split
    · next inner =>
      have hfault := h.scalar (.array inner) List.mem_cons_self
      cases hfault
    · rfl
  have hfind : values.findSome? (enumValueFault? allowsNull) = none :=
    List.findSome?_eq_none_iff.mpr hscalar
  simp [enumValues, hunwrapped, h.nonempty, hfind]

/-- The member of an enumeration. -/
theorem enumeration {q : Rule} (hq : q.Enumerates) :
    ∃ tag, Adds p read place [(q.name, q.arguments.toJson)]
      fun draft => draft.addPattern tag q.plain := by
  obtain ⟨hkind, hname, values, harguments, hvalues⟩ := hq
  refine ⟨enumTag values, ?_⟩
  have hplain : q.plain = ⟨CoreKey.enum.name, .list values, .enumeration, []⟩ := by
    simp [Rule.plain, hkind, hname, harguments]
  rw [hname, harguments, hplain]
  refine core .enum rfl fun draft => located_ok_iff.mpr ?_
  exact bind_ok_iff.mpr ⟨values, valuesOf_ok_iff.mpr (enumValues_of_scalars false hvalues), rfl⟩

/-- The members of pattern rules, the first of which is remembered. -/
theorem patternRules (hp : p.Coherent) {rules : List Rule}
    (h : ∀ q ∈ rules, p.ChecksPatterns q ∨ q.Enumerates) :
    ∃ first, (rules = [] → first = none) ∧ Adds p read place (ruleMembers rules) fun draft =>
      { draft with
        patternRules := draft.patternRules ++ rules.map Rule.plain
        firstPattern := draft.firstPattern <|> first } := by
  induction rules with
  | nil => exact ⟨none, fun _ => rfl, nil fun draft => by simp⟩
  | cons q rest ih =>
    obtain ⟨hq, hrest⟩ := List.forall_mem_cons.mp h
    obtain ⟨first, _, hothers⟩ := ih hrest
    have hone : ∃ tag, Adds p read place [(q.name, q.arguments.toJson)]
        fun draft => draft.addPattern tag q.plain := hq.elim (patternRule hp) enumeration
    obtain ⟨tag, hone⟩ := hone
    refine ⟨some (tag, q.name), fun h => (List.cons_ne_nil q rest h).elim, ?_⟩
    have hall := hone.append hothers fun _ _ => rfl
    have hfirst (before : Option (TypeTag × String)) :
        ((before <|> some (tag, q.name)) <|> first) = (before <|> some (tag, q.name)) := by
      cases before <;> rfl
    simpa [Function.comp_def, ruleMembers, addPattern, Rule.plain, hfirst] using hall

/-! ## Fallbacks and children -/

/-- The member of the values that rescue a subject. -/
theorem alternativeEnum {values : Option (List Value)}
    (h : ∀ list, values = some list → ScalarList list) :
    Adds p read place (partMember .alternativeEnum .array values)
      fun draft => { draft with alternativeEnum := values <|> draft.alternativeEnum } := by
  cases values with
  | none => exact nil fun draft => by simp
  | some values =>
    have hvalues := h values rfl
    refine core .alternativeEnum rfl fun draft => located_ok_iff.mpr ?_
    refine bind_ok_iff.mpr ⟨values, valuesOf_ok_iff.mpr (enumValues_of_scalars true hvalues), ?_⟩
    have hnull : ∀ v ∈ values, v.isNull = false := by
      intro v hv
      have hfault := hvalues.scalar v hv
      cases v <;> simp_all [enumValueFault?, Value.isNull]
    have hothers : values.filter (fun v => !v.isNull) = values :=
      List.filter_eq_self.mpr fun v hv => by simp [hnull v hv]
    have hany : values.any Value.isNull = false := by simpa using hnull
    simp [hothers, hany, hvalues.nonempty]

/-- The member of the rules that rescue a subject. -/
theorem alternativeRuleSet {back : Ruleset → Ruleset} {alternative : Option Ruleset}
    (hread : ∀ a, alternative = some a → read a.toJson place.deeper = .ok (back a))
    (hnested : ∀ a, alternative = some a → nestedPart? (back a) = none) :
    Adds p read place (partMember .alternativeRuleSet Ruleset.toJson alternative)
      fun draft => { draft with
        alternativeRuleSet := alternative.map back <|> draft.alternativeRuleSet } := by
  cases alternative with
  | none => exact nil fun draft => by simp
  | some a =>
    have hstring : a.toJson.string? = none := by rw [Ruleset.toJson_eq]; rfl
    refine core .alternativeRuleSet hstring fun draft => ?_
    refine bind_ok_iff.mpr ⟨_, hread a rfl, located_ok_iff.mpr ?_⟩
    simp [addAlternative, hnested a rfl]

/-- The member of a table. -/
theorem tableElements {back : Ruleset → Ruleset} {table : Option (TableElements Ruleset)}
    (hread : ∀ t, table = some t → ∀ e ∈ t.elements,
      read e.2.toJson (place.element e.1) = .ok (back e.2))
    (h : ∀ t, table = some t → t.Sound) :
    Adds p read place (partMember .tableElements (TableElements.toJson Ruleset.toJson) table)
      fun draft => { draft with
        tableElements := table.map (TableElements.map back) <|> draft.tableElements } := by
  cases table with
  | none => exact nil fun draft => by simp
  | some t =>
    refine core .tableElements rfl fun draft => ?_
    exact bind_ok_iff.mpr ⟨_, TableElements.ofDescription_toJson (h t rfl) (hread t rfl), rfl⟩

/-- The member of a list. -/
theorem listItems {back : Ruleset → Ruleset} {items : Option (ListItems Ruleset)}
    (hread : ∀ l, items = some l →
      read l.itemRules.toJson place.everyItem = .ok (back l.itemRules))
    (h : ∀ l, items = some l → l.Sound) :
    Adds p read place (partMember .listItems (ListItems.toJson Ruleset.toJson) items)
      fun draft => { draft with
        listItems := items.map (ListItems.map back) <|> draft.listItems } := by
  cases items with
  | none => exact nil fun draft => by simp
  | some l =>
    refine core .listItems rfl fun draft => ?_
    exact bind_ok_iff.mpr ⟨_, ListItems.ofDescription_toJson (h l rfl) (hread l rfl), rfl⟩

/-! ## All members -/

/-- The members of the flags. -/
theorem flags (r : Ruleset) :
    Adds p read place r.flagMembers fun draft =>
      { draft with
        optional := draft.optional || r.optional
        nullable := draft.nullable || r.nullable
        empty := draft.empty || r.emptiness == some .empty
        nonEmpty := draft.nonEmpty || r.emptiness == some .nonEmpty } := by
  have hnullable : Adds p read place _ _ := nullable r.nullable
  have hsubject := hnullable.append (emptiness r.emptiness) fun _ _ => rfl
  exact (optional r.optional).append hsubject fun _ _ => rfl

/-- The members of fallbacks and children, if the parts of a ruleset are read from their
descriptions. -/
theorem parts {back : Ruleset → Ruleset} {r : Ruleset} (h : r.Sound p)
    (hread : ∀ q ∈ r.parts, ∀ place, read q.toJson place = .ok (back q))
    (hnested : ∀ a, nestedPart? (back a) = nestedPart? a) :
    Adds p read place r.partMembers fun draft =>
      { draft with
        alternativeEnum := r.alternativeEnum <|> draft.alternativeEnum
        alternativeRuleSet := r.alternativeRuleSet.map back <|> draft.alternativeRuleSet
        tableElements := r.tableElements.map (TableElements.map back) <|> draft.tableElements
        listItems := r.listItems.map (ListItems.map back) <|> draft.listItems } := by
  have hvalues : Adds p read place _ _ := alternativeEnum h.alternativeEnum
  have hrules : Adds p read place _ _ :=
    alternativeRuleSet (fun a ha => hread a (Ruleset.mem_parts_of_alternative ha) _)
      fun a ha => (hnested a).trans (h.alternative a ha)
  have htable : Adds p read place _ _ :=
    tableElements (fun t ht e he => hread e.2 (Ruleset.mem_parts_of_element ht he) _) h.table
  have hitems : Adds p read place _ _ :=
    listItems (fun l hl => hread _ (Ruleset.mem_parts_of_items hl) _) h.items
  have hchildren := htable.append hitems fun _ _ => rfl
  exact hvalues.append (hrules.append hchildren fun _ _ => rfl) fun _ _ => rfl

end Adds

/-- The draft of a whole ruleset. -/
def ofRuleset (r : Ruleset) (names : List String) (first : Option (TypeTag × String)) : Draft where
  names := names
  typeRules := r.typeRules
  patternRules := r.patternRules
  firstPattern := first
  optional := r.optional
  nullable := r.nullable
  empty := r.emptiness == some .empty
  nonEmpty := r.emptiness == some .nonEmpty
  alternativeEnum := r.alternativeEnum
  alternativeRuleSet := r.alternativeRuleSet
  tableElements := r.tableElements
  listItems := r.listItems

/-- The members of the canonical description are read as the draft of a ruleset, if its parts are
read back. -/
theorem addAll_members (place : Location) {back : Ruleset → Ruleset} {r : Ruleset}
    (h : r.Sound p) (hp : p.Coherent)
    (hread : ∀ q ∈ r.parts, ∀ place, read q.toJson place = .ok (back q))
    (hnested : ∀ a, nestedPart? (back a) = nestedPart? a)
    (hkeys : (Association.keys r.members).Nodup) :
    ∃ names first, (r.patternRules = [] → first = none) ∧
      blank.addAll p read place (Entry.ofMembers r.members) =
        .ok (ofRuleset (r.plainWith back) names first) := by
  obtain ⟨first, hfirst, hpatterns⟩ : ∃ first, (r.patternRules = [] → first = none) ∧
      Adds p read place (ruleMembers r.patternRules) _ := Adds.patternRules hp h.patternRules
  have htypes : Adds p read place _ _ := Adds.typeRules hp h.typeRules
  have hrest := hpatterns.append (Adds.parts h hread hnested) fun _ _ => rfl
  have hall : Adds p read place r.members _ :=
    htypes.append ((Adds.flags r).append hrest fun _ _ => rfl) fun _ _ => rfl
  have hadd := hall blank hkeys (by simp [blank])
  refine ⟨(Association.keys r.members).reverse ++ [], first, hfirst, hadd.trans ?_⟩
  simp [ofRuleset, blank, Ruleset.plainWith]

/-- The draft of a ruleset is finished as the ruleset, with a guard in front of rules for children
that have none. -/
theorem finish_ofRuleset {r : Ruleset} (htyped : r.typeRules = [] → r.patternRules = [])
    (hflagged : r.typeRules = [] → r.emptiness.isSome = true) (names : List String)
    {first : Option (TypeTag × String)} (hfirst : r.patternRules = [] → first = none) :
    (ofRuleset r names first).finish p = .ok (r.withContainerGuard p) := by
  have hemptiness : (ofRuleset r names first).emptiness = .ok r.emptiness := by
    cases he : r.emptiness with
    | none =>
      simp only [Draft.emptiness, ofRuleset, he]
      rfl
    | some e =>
      simp only [Draft.emptiness, ofRuleset, he]
      cases e <;> rfl
  have hguarded : (ofRuleset r names first).guarded p r.emptiness =
      .ok (r.withContainerGuard p).typeRules := by
    cases htypes : r.typeRules with
    | cons q rest => simp [ofRuleset, guarded, Ruleset.withContainerGuard, htypes]
    | nil =>
      cases hchildren : r.tableElements.isSome || r.listItems.isSome with
      | true =>
        simp [ofRuleset, guarded, Ruleset.withContainerGuard, Ruleset.hasChildren, htypes,
          hchildren]
      | false =>
        simp [ofRuleset, guarded, Ruleset.withContainerGuard, Ruleset.hasChildren, htypes,
          hchildren, hfirst (htyped htypes), hflagged htypes]
  refine bind_ok_iff.mpr ⟨_, hemptiness, bind_ok_iff.mpr ⟨_, hguarded, ?_⟩⟩
  cases r
  unfold Ruleset.withContainerGuard
  split <;> rfl

end Draft

end Rulebook
