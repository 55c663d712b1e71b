import Mathlib.Data.List.Forall2
import Rulebook.Proofs.Description.Forms

/-!
# What entries say

An entry of a description says one thing, and it says the same whatever the entries around it say: which
rule is declared and with which arguments, how a flag is set, what rescues a subject, or what holds of
children. A draft takes an entry exactly if there is something that it says and the name that it says it
about is free.
-/

namespace Rulebook

open Json (Value Members)

/-- What an entry says. -/
inductive Statement where
  | typeRule (q : Rule)
  /-- A rule behind the type-checking ones, or an enumeration, with the tag that a guard has to fit. -/
  | patternRule (tag : TypeTag) (q : Rule)
  | optional (b : Bool)
  | nullable (b : Bool)
  | empty (b : Bool)
  | nonEmpty (b : Bool)
  /-- The values that rescue a subject, null among them if it is one. -/
  | alternativeEnum (values : List Value)
  | alternativeRuleSet (r : Ruleset)
  | tableElements (t : TableElements Ruleset)
  | listItems (l : ListItems Ruleset)

namespace Statement

/-- The name that is taken: the current name of a rule, or a core name. -/
def name : Statement → String
  | typeRule q => q.name
  | patternRule _ q => q.name
  | optional _ => CoreKey.optional.name
  | nullable _ => CoreKey.nullable.name
  | empty _ => CoreKey.empty.name
  | nonEmpty _ => CoreKey.nonEmpty.name
  | alternativeEnum _ => CoreKey.alternativeEnum.name
  | alternativeRuleSet _ => CoreKey.alternativeRuleSet.name
  | tableElements _ => CoreKey.tableElements.name
  | listItems _ => CoreKey.listItems.name

/-- The type-checking rule that is declared. -/
def typeRule? : Statement → Option Rule
  | typeRule q => some q
  | _ => none

/-- The pattern rule or the enumeration that is declared, with its tag. -/
def patternRule? : Statement → Option (TypeTag × Rule)
  | patternRule tag q => some (tag, q)
  | _ => none

/-- The rule that is declared, of whichever kind. -/
def rule? : Statement → Option Rule
  | typeRule q => some q
  | patternRule _ q => some q
  | _ => none

end Statement

/-- An entry says something. Its name is resolved through renames, and the rulesets inside it are read
by `read`, one level below the place of the entry. -/
inductive Entry.Says (p : Provider) (read : RulesetReader) (place : Location) :
    Entry → Statement → Prop
  | typeRule {name : String} {v : Value} {found : Resolved} {arguments : Arguments}
      (resolved : p.resolve name = .ok found) (given : found.arguments v = .ok arguments)
      (usable : p.prepare found.descriptor.name arguments.values = .ok ())
      (checking : found.descriptor.isTypeChecking = true) :
      Says p read place (.rule name v) (.typeRule (found.rule arguments))
  | patternRule {name : String} {v : Value} {found : Resolved} {arguments : Arguments}
      (resolved : p.resolve name = .ok found) (given : found.arguments v = .ok arguments)
      (usable : p.prepare found.descriptor.name arguments.values = .ok ())
      (checking : found.descriptor.isTypeChecking = false) :
      Says p read place (.rule name v)
        (.patternRule found.descriptor.semanticType (found.rule arguments))
  | enum {v : Value} {values : List Value} (lists : enumValues false v = .ok values) :
      Says p read place (.core .enum v)
        (.patternRule (enumTag values) ⟨CoreKey.enum.name, .list values, .enumeration, []⟩)
  | optional (b : Bool) : Says p read place (.core .optional (.bool b)) (.optional b)
  | nullable (b : Bool) : Says p read place (.core .nullable (.bool b)) (.nullable b)
  | empty (b : Bool) : Says p read place (.core .empty (.bool b)) (.empty b)
  | nonEmpty (b : Bool) : Says p read place (.core .nonEmpty (.bool b)) (.nonEmpty b)
  | alternativeEnum {v : Value} {values : List Value} (lists : enumValues true v = .ok values) :
      Says p read place (.core .alternativeEnum v) (.alternativeEnum values)
  | alternativeRuleSet {v : Value} {r : Ruleset} (described : read v place.deeper = .ok r)
      (bare : Draft.nestedPart? r = none) :
      Says p read place (.core .alternativeRuleSet v) (.alternativeRuleSet r)
  | tableElements {v : Value} {t : TableElements Ruleset}
      (described : TableElements.ofDescription read place v = .ok t) :
      Says p read place (.core .tableElements v) (.tableElements t)
  | listItems {v : Value} {l : ListItems Ruleset}
      (described : ListItems.ofDescription read place v = .ok l) :
      Says p read place (.core .listItems v) (.listItems l)

variable {p : Provider} {read : RulesetReader} {place : Location}

/-- An entry says one thing. -/
theorem Entry.Says.unique {entry : Entry} {s s' : Statement} (h : entry.Says p read place s)
    (h' : entry.Says p read place s') : s = s' := by
  cases h with
  | typeRule resolved given usable checking =>
    cases h' with
    | typeRule resolved' given' _ _ =>
      obtain rfl := Except.ok.inj (resolved.symm.trans resolved')
      rw [Except.ok.inj (given.symm.trans given')]
    | patternRule resolved' _ _ checking' =>
      obtain rfl := Except.ok.inj (resolved.symm.trans resolved')
      simp [checking] at checking'
  | patternRule resolved given usable checking =>
    cases h' with
    | typeRule resolved' _ _ checking' =>
      obtain rfl := Except.ok.inj (resolved.symm.trans resolved')
      simp [checking] at checking'
    | patternRule resolved' given' _ _ =>
      obtain rfl := Except.ok.inj (resolved.symm.trans resolved')
      rw [Except.ok.inj (given.symm.trans given')]
  | optional | nullable | empty | nonEmpty =>
    cases h'
    rfl
  | enum lists | alternativeEnum lists =>
    cases h' with | _ lists' => rw [Except.ok.inj (lists.symm.trans lists')]
  | alternativeRuleSet described =>
    cases h' with | _ described' => rw [Except.ok.inj (described.symm.trans described')]
  | tableElements described | listItems described =>
    cases h' with | _ described' => rw [Except.ok.inj (described.symm.trans described')]

/-! ## Readers that agree one level below -/

section Readers

variable {read' : RulesetReader}
  (hread : ∀ v below, below.depth = place.depth + 1 → read v below = read' v below)

include hread

/-- Declared elements are read one level below. -/
theorem readElements_congr (members : Members) :
    readElements read place members = readElements read' place members := by
  induction members with
  | nil => rfl
  | cons m rest ih => rw [readElements, readElements, ih, hread _ (place.element m.1) rfl]

/-- A table is read one level below. -/
theorem TableElements.ofDescription_congr (v : Value) :
    TableElements.ofDescription read place v = TableElements.ofDescription read' place v := by
  cases v with
  | object members =>
    simp only [TableElements.ofDescription, readElements_congr hread]
  | _ => rfl

/-- A list is read one level below. -/
theorem ListItems.ofDescription_congr (v : Value) :
    ListItems.ofDescription read place v = ListItems.ofDescription read' place v := by
  simp only [ListItems.ofDescription, hread _ place.everyItem rfl]

/-- What an entry says depends on what is read one level below only. -/
theorem Entry.Says.congr {entry : Entry} {s : Statement} (h : entry.Says p read place s) :
    entry.Says p read' place s := by
  cases h with
  | typeRule resolved given usable checking => exact .typeRule resolved given usable checking
  | patternRule resolved given usable checking => exact .patternRule resolved given usable checking
  | enum lists => exact .enum lists
  | optional b => exact .optional b
  | nullable b => exact .nullable b
  | empty b => exact .empty b
  | nonEmpty b => exact .nonEmpty b
  | alternativeEnum lists => exact .alternativeEnum lists
  | alternativeRuleSet described bare =>
    rw [hread _ place.deeper rfl] at described
    exact .alternativeRuleSet described bare
  | tableElements described =>
    rw [TableElements.ofDescription_congr hread] at described
    exact .tableElements described
  | listItems described =>
    rw [ListItems.ofDescription_congr hread] at described
    exact .listItems described

end Readers

/-! ## Drafts -/

namespace Draft

variable {draft next : Draft}

/-- The draft with one more statement, whose name is taken. -/
def note (draft : Draft) (s : Statement) : Draft :=
  let draft := { draft with names := s.name :: draft.names }
  match s with
  | .typeRule q => { draft with typeRules := draft.typeRules ++ [q] }
  | .patternRule tag q => draft.addPattern tag q
  | .optional b => { draft with optional := b }
  | .nullable b => { draft with nullable := draft.nullable || b }
  | .empty b => { draft with empty := b }
  | .nonEmpty b => { draft with nonEmpty := b }
  | .alternativeEnum values =>
    let others := values.filter fun v => !v.isNull
    { draft with
      nullable := draft.nullable || values.any Value.isNull
      alternativeEnum := if others.isEmpty then none else some others }
  | .alternativeRuleSet r => { draft with alternativeRuleSet := some r }
  | .tableElements t => { draft with tableElements := some t }
  | .listItems l => { draft with listItems := some l }

/-- A statement takes its name. -/
theorem names_note (draft : Draft) (s : Statement) : (draft.note s).names = s.name :: draft.names := by
  cases s <;> rfl

/-- A flag is read from a boolean. -/
theorem flagOf_ok_iff {name : String} {v : Value} {b : Bool} :
    flagOf name v = .ok b ↔ v = .bool b := by
  cases v <;> simp [flagOf]

/-- A rule is added if it is declared and its current name is free. -/
theorem addRule_ok_iff {name : String} {v : Value} :
    draft.addRule p name v = .ok next ↔
      ∃ s, (Entry.rule name v).Says p read place s ∧ s.name ∉ draft.names ∧
        draft.note s = next := by
  unfold addRule
  constructor
  · intro h
    split at h
    · cases h
    · next found resolved =>
      simp only [bind_ok_iff, take_ok_iff, Resolved.prepared_ok_iff] at h
      obtain ⟨_, ⟨hfree, rfl⟩, arguments, given, _, ⟨usable, rfl⟩, h⟩ := h
      split at h
      · next checking =>
        exact ⟨_, .typeRule resolved given usable checking, hfree, Except.ok.inj h⟩
      · next checking =>
        have checking : found.descriptor.isTypeChecking = false := by simpa using checking
        exact ⟨_, .patternRule resolved given usable checking, hfree, Except.ok.inj h⟩
  · rintro ⟨s, hstates, hfree, rfl⟩
    cases hstates with
    | typeRule resolved given usable checking =>
      simp only [resolved, bind_ok_iff, take_ok_iff, Resolved.prepared_ok_iff]
      refine ⟨_, ⟨hfree, rfl⟩, _, given, _, ⟨usable, rfl⟩, ?_⟩
      rw [if_pos checking]
      rfl
    | patternRule resolved given usable checking =>
      simp only [resolved, bind_ok_iff, take_ok_iff, Resolved.prepared_ok_iff]
      refine ⟨_, ⟨hfree, rfl⟩, _, given, _, ⟨usable, rfl⟩, ?_⟩
      rw [if_neg (by simp [checking])]
      rfl

/-- A core entry is added, its name being taken, if it says something. -/
theorem addCore_ok_iff {key : CoreKey} {v : Value} :
    { draft with names := key.name :: draft.names }.addCore read place key v = .ok next ↔
      ∃ s, (Entry.core key v).Says p read place s ∧ draft.note s = next := by
  cases key with
  | optional | nullable | empty | nonEmpty =>
    simp only [addCore, bind_ok_iff, located_ok_iff, flagOf_ok_iff]
    constructor
    · rintro ⟨b, rfl, h⟩
      apply Exists.intro
      constructor
      · constructor
      · exact Except.ok.inj h
    · rintro ⟨s, hstates, rfl⟩
      cases hstates
      exact ⟨_, rfl, rfl⟩
  | enum =>
    simp only [addCore, addEnum, located_ok_iff, bind_ok_iff, valuesOf_ok_iff]
    constructor
    · rintro ⟨values, lists, h⟩
      exact ⟨_, .enum lists, Except.ok.inj h⟩
    · rintro ⟨s, hstates, rfl⟩
      cases hstates with | enum lists => exact ⟨_, lists, rfl⟩
  | alternativeEnum =>
    simp only [addCore, addAlternativeEnum, located_ok_iff, bind_ok_iff, valuesOf_ok_iff]
    constructor
    · rintro ⟨values, lists, h⟩
      exact ⟨_, .alternativeEnum lists, Except.ok.inj h⟩
    · rintro ⟨s, hstates, rfl⟩
      cases hstates with | alternativeEnum lists => exact ⟨_, lists, rfl⟩
  | alternativeRuleSet =>
    simp only [addCore, bind_ok_iff, located_ok_iff, addAlternative]
    constructor
    · rintro ⟨r, described, h⟩
      split at h
      · cases h
      · next bare => exact ⟨_, .alternativeRuleSet described bare, Except.ok.inj h⟩
    · rintro ⟨s, hstates, rfl⟩
      cases hstates with
      | alternativeRuleSet described bare =>
        refine ⟨_, described, ?_⟩
        rw [bare]
        rfl
  | tableElements =>
    simp only [addCore, bind_ok_iff]
    constructor
    · rintro ⟨t, described, h⟩
      exact ⟨_, .tableElements described, Except.ok.inj h⟩
    · rintro ⟨s, hstates, rfl⟩
      cases hstates with | tableElements described => exact ⟨_, described, rfl⟩
  | listItems =>
    simp only [addCore, bind_ok_iff]
    constructor
    · rintro ⟨l, described, h⟩
      exact ⟨_, .listItems described, Except.ok.inj h⟩
    · rintro ⟨s, hstates, rfl⟩
      cases hstates with | listItems described => exact ⟨_, described, rfl⟩

/-- What a core entry says is about its core name. -/
theorem name_of_says_core {key : CoreKey} {v : Value} {s : Statement}
    (h : (Entry.core key v).Says p read place s) : s.name = key.name := by
  cases h <;> rfl

/-- An entry is added if it says something about a name that is free. -/
theorem add_ok_iff {entry : Entry} :
    draft.add p read place entry = .ok next ↔
      ∃ s, entry.Says p read place s ∧ s.name ∉ draft.names ∧ draft.note s = next := by
  cases entry with
  | rule name v => exact located_ok_iff.trans addRule_ok_iff
  | core key v =>
    simp only [add, bind_ok_iff, located_ok_iff, take_ok_iff]
    constructor
    · rintro ⟨_, ⟨hfree, rfl⟩, h⟩
      obtain ⟨s, hstates, rfl⟩ := (addCore_ok_iff (p := p)).mp h
      exact ⟨s, hstates, name_of_says_core hstates ▸ hfree, rfl⟩
    · rintro ⟨s, hstates, hfree, rfl⟩
      rw [name_of_says_core hstates] at hfree
      exact ⟨_, ⟨hfree, rfl⟩, addCore_ok_iff.mpr ⟨s, hstates, rfl⟩⟩

/-- Entries are added if each of them says something, about names that are free and distinct. -/
theorem addAll_ok_iff {entries : List Entry} :
    draft.addAll p read place entries = .ok next ↔
      ∃ said, List.Forall₂ (Entry.Says p read place) entries said ∧
        (said.map Statement.name).Nodup ∧ (∀ s ∈ said, s.name ∉ draft.names) ∧
        said.foldl note draft = next := by
  -- the draft is generalized: the names that are taken grow with every entry
  induction entries generalizing draft with
  | nil => simp [addAll]
  | cons entry rest ih =>
    simp only [addAll, bind_ok_iff, add_ok_iff, ih, List.forall₂_cons_left_iff]
    constructor
    · rintro ⟨_, ⟨s, hstates, hfree, rfl⟩, others, hothers, hdistinct, hapart, rfl⟩
      simp only [names_note, List.mem_cons, not_or] at hapart
      have hnew : s.name ∉ others.map Statement.name := by
        intro hmem
        obtain ⟨other, hother, heq⟩ := List.mem_map.mp hmem
        exact (hapart other hother).1 heq
      refine ⟨s :: others, ⟨s, others, hstates, hothers, rfl⟩,
        List.nodup_cons.mpr ⟨hnew, hdistinct⟩, ?_, rfl⟩
      exact List.forall_mem_cons.mpr ⟨hfree, fun other hother => (hapart other hother).2⟩
    · rintro ⟨_, ⟨s, others, hstates, hothers, rfl⟩, hdistinct, hapart, rfl⟩
      obtain ⟨hnew, hdistinct⟩ := List.nodup_cons.mp hdistinct
      obtain ⟨hfree, hapart⟩ := List.forall_mem_cons.mp hapart
      refine ⟨_, ⟨s, hstates, hfree, rfl⟩, others, hothers, hdistinct, fun other hother => ?_, rfl⟩
      rw [names_note, List.mem_cons, not_or]
      exact ⟨fun heq => hnew (heq ▸ List.mem_map_of_mem hother), hapart other hother⟩

end Draft

end Rulebook
