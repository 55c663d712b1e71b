import Rulebook.Proofs.Description.ChildForms
import Rulebook.Proofs.Description.Coherence

/-!
# Entries that a draft takes

A draft takes an entry if the entry is well formed, the descriptions in it are, and its name is
free. How it changes then depends on the kind of entry only.
-/

namespace Rulebook

open Json (Value Members)

/-- A name leads to one rule. -/
theorem Provider.LeadsTo.unique {p : Provider} {renames : Nat} {name : String} {d e : Descriptor}
    (hd : p.LeadsTo renames name d) (he : p.LeadsTo renames name e) : d = e := by
  obtain ⟨found, hfound, rfl⟩ := (Provider.resolveWithin_iff_leadsTo []).mpr hd
  obtain ⟨other, hother, rfl⟩ := (Provider.resolveWithin_iff_leadsTo []).mpr he
  rw [hfound] at hother
  exact congrArg _ (Except.ok.inj hother)

/-- An entry takes one name. -/
theorem Entry.Takes.unique {p : Provider} {entry : Entry} {a b : String} (ha : entry.Takes p a)
    (hb : entry.Takes p b) : a = b := by
  cases ha with
  | core key v =>
    cases hb
    rfl
  | rule v hd =>
    cases hb with
    | rule _ he => rw [hd.unique he]

/-- An entry is accepted: it is well formed, and the descriptions in it have a form. -/
def Entry.Accepted (p : Provider) (form : Value → Prop) (entry : Entry) : Prop :=
  entry.WellFormed p ∧ ∀ w, entry.Holds w → form w

/-- A reader reads the values of a form, and puts into a ruleset what its description declares. -/
structure Recognizes (read : RulesetReader) (form : Value → Prop) : Prop where
  exact : ReadsExactly read form
  nested : ∀ {v place r}, read v place = .ok r →
    (Draft.nestedPart? r = none ↔
      ¬v.Declares .alternativeRuleSet ∧ ¬v.Declares .tableElements ∧ ¬v.Declares .listItems)

namespace Draft

variable {p : Provider} {read : RulesetReader} {form : Value → Prop} {place : Location}
  {draft next : Draft}

/-! ## Adding an entry -/

/-- A rule is added if its name leads to one that can be run with its argument, and that is not
among the rules yet. -/
theorem succeeds_addRule_iff (hp : p.Coherent) {name : String} {v : Value} :
    Succeeds (draft.addRule p name v) ↔
      ∃ d, p.LeadsTo maxRenames name d ∧ d.name ∉ draft.names ∧ p.CanRun d v := by
  unfold addRule
  simp only [← Provider.resolveWithin_iff_leadsTo []]
  change _ ↔ ∃ d, (∃ found, p.resolve name = .ok found ∧ found.descriptor = d) ∧ _
  cases hresolve : p.resolve name with
  | error stuck => simp
  | ok found =>
    have harity := hp.arity (Provider.resolve_spec hp hresolve)
    simp only [Except.ok.injEq, exists_eq_left', ← Resolved.succeeds_prepared_iff harity,
      succeeds_bind_iff, take_ok_iff]
    constructor
    · rintro ⟨_, ⟨hfree, _⟩, arguments, harguments, prepared, hprepared, _⟩
      exact ⟨hfree, arguments, harguments, prepared, hprepared⟩
    · rintro ⟨hfree, arguments, harguments, prepared, hprepared⟩
      refine ⟨_, ⟨hfree, rfl⟩, arguments, harguments, prepared, hprepared, ?_⟩
      split <;> simp

/-- An argument is added under a core name if its entry is accepted. -/
theorem succeeds_addCore_iff (hread : Recognizes read form) {key : CoreKey} {v : Value} :
    Succeeds (draft.addCore read place key v) ↔ (Entry.core key v).Accepted p form := by
  have hvalues (key : CoreKey) (allowsNull : Bool) :
      Succeeds (valuesOf key allowsNull v) ↔ v.ListsValues allowsNull := by
    simp only [Succeeds, valuesOf_ok_iff]
    exact succeeds_enumValues_iff
  unfold Entry.Accepted
  cases key with
  | optional | nullable | empty | nonEmpty =>
    simp [addCore, Entry.WellFormed, CoreKey.Admits, Entry.Holds, succeeds_bind_ok_iff,
      succeeds_located_iff, succeeds_flagOf_iff]
  | enum =>
    simp [addCore, addEnum, Entry.WellFormed, CoreKey.Admits, Entry.Holds, succeeds_bind_ok_iff,
      succeeds_located_iff, hvalues]
  | alternativeEnum =>
    simp [addCore, addAlternativeEnum, Entry.WellFormed, CoreKey.Admits, Entry.Holds,
      succeeds_bind_ok_iff, succeeds_located_iff, hvalues]
  | alternativeRuleSet =>
    have hadd (r : Ruleset) : Succeeds (draft.addAlternative r) ↔ nestedPart? r = none := by
      unfold addAlternative
      split <;> simp [*]
    simp only [addCore, succeeds_bind_iff, succeeds_located_iff, hadd, Entry.WellFormed,
      CoreKey.Admits, Entry.Holds, forall_eq', ← hread.exact v place.deeper]
    constructor
    · rintro ⟨r, hr, hnested⟩
      exact ⟨(hread.nested hr).mp hnested, r, hr⟩
    · rintro ⟨hnested, r, hr⟩
      exact ⟨r, hr, (hread.nested hr).mpr hnested⟩
  | tableElements =>
    simp only [addCore, succeeds_bind_ok_iff,
      TableElements.succeeds_ofDescription_iff hread.exact, Entry.WellFormed, CoreKey.Admits,
      Entry.Holds]
    constructor
    · rintro ⟨elements, hdeclares, hform⟩
      refine ⟨⟨elements, hdeclares⟩, ?_⟩
      rintro _ ⟨others, hothers, e, he, rfl⟩
      rw [hothers.unique hdeclares] at he
      exact hform e he
    · rintro ⟨⟨elements, hdeclares⟩, hform⟩
      exact ⟨elements, hdeclares, fun e he => hform _ ⟨elements, hdeclares, e, he, rfl⟩⟩
  | listItems =>
    simp only [addCore, succeeds_bind_ok_iff, ListItems.succeeds_ofDescription_iff hread.exact,
      Entry.WellFormed, CoreKey.Admits, Entry.Holds]
    constructor
    · rintro ⟨w, hdescribes, hform⟩
      refine ⟨⟨w, hdescribes⟩, fun other hother => ?_⟩
      rwa [hother.unique hdescribes]
    · rintro ⟨⟨w, hdescribes⟩, hform⟩
      exact ⟨w, hdescribes, hform w hdescribes⟩

/-- An entry is added if it is accepted and its name is free. -/
theorem succeeds_add_iff (hp : p.Coherent) (hread : Recognizes read form) (place : Location)
    {entry : Entry} :
    Succeeds (draft.add p read place entry) ↔
      entry.Accepted p form ∧ ∀ name, entry.Takes p name → name ∉ draft.names := by
  cases entry with
  | core key v =>
    have htakes : (∀ name, (Entry.core key v).Takes p name → name ∉ draft.names) ↔
        key.name ∉ draft.names := by
      constructor
      · exact fun h => h _ (.core key v)
      · rintro h _ ⟨⟩
        exact h
    simp only [add, succeeds_bind_iff, located_ok_iff, take_ok_iff, htakes,
      succeeds_addCore_iff (p := p) hread]
    constructor
    · rintro ⟨_, ⟨hfree, _⟩, haccepted⟩
      exact ⟨haccepted, hfree⟩
    · rintro ⟨haccepted, hfree⟩
      exact ⟨_, ⟨hfree, rfl⟩, haccepted⟩
  | rule name v =>
    simp only [add, succeeds_located_iff, succeeds_addRule_iff hp, Entry.Accepted,
      Entry.WellFormed, Entry.Holds, false_imp_iff, implies_true, and_true]
    constructor
    · rintro ⟨d, hleads, hfree, hrun⟩
      refine ⟨⟨d, hleads, hrun⟩, fun other hother => ?_⟩
      rwa [hother.unique (.rule v hleads)]
    · rintro ⟨⟨d, hleads, hrun⟩, hfree⟩
      exact ⟨d, hleads, hfree _ (.rule v hleads), hrun⟩

/-! ## Changes of a draft -/

/-- How a draft changes when an entry is added whose name is taken already. -/
inductive Changes (p : Provider) (draft : Draft) : Entry → Draft → Prop
  | optional (b : Bool) :
      Changes p draft (.core .optional (.bool b)) { draft with optional := b }
  | nullable (b nullable : Bool) :
      Changes p draft (.core .nullable (.bool b)) { draft with nullable := nullable }
  | empty (b : Bool) : Changes p draft (.core .empty (.bool b)) { draft with empty := b }
  | nonEmpty (b : Bool) :
      Changes p draft (.core .nonEmpty (.bool b)) { draft with nonEmpty := b }
  | enum (v : Value) (values : List Value) (q : Rule) :
      Changes p draft (.core .enum v) (draft.addPattern (enumTag values) q)
  | alternativeEnum (v : Value) (nullable : Bool) (values : Option (List Value)) :
      Changes p draft (.core .alternativeEnum v)
        { draft with nullable := nullable, alternativeEnum := values }
  | alternativeRuleSet (v : Value) (r : Ruleset) :
      Changes p draft (.core .alternativeRuleSet v) { draft with alternativeRuleSet := some r }
  | tableElements (v : Value) (t : TableElements Ruleset) :
      Changes p draft (.core .tableElements v) { draft with tableElements := some t }
  | listItems (v : Value) (l : ListItems Ruleset) :
      Changes p draft (.core .listItems v) { draft with listItems := some l }
  | typeRule (name : String) (v : Value) (q : Rule) :
      Changes p draft (.rule name v) { draft with typeRules := draft.typeRules ++ [q] }
  | patternRule (name : String) (v : Value) (q : Rule) {current : String} {d : Descriptor}
      (described : p.descriptor current = some d) (checking : d.isTypeChecking = false) :
      Changes p draft (.rule name v) (draft.addPattern d.semanticType q)

/-- A core entry that is added changes the draft. -/
theorem changes_of_addCore {key : CoreKey} {v : Value}
    (h : draft.addCore read place key v = .ok next) : Changes p draft (.core key v) next := by
  cases key with
  | optional | nullable | empty | nonEmpty =>
    simp only [addCore, bind_ok_iff, located_ok_iff] at h
    obtain ⟨b, hb, h⟩ := h
    obtain ⟨b', rfl⟩ := succeeds_flagOf_iff.mp ⟨b, hb⟩
    obtain rfl := Except.ok.inj hb
    obtain rfl := Except.ok.inj h
    constructor
  | enum =>
    simp only [addCore, addEnum, bind_ok_iff, located_ok_iff] at h
    obtain ⟨values, _, h⟩ := h
    obtain rfl := Except.ok.inj h
    constructor
  | alternativeEnum =>
    simp only [addCore, addAlternativeEnum, bind_ok_iff, located_ok_iff] at h
    obtain ⟨values, _, h⟩ := h
    obtain rfl := Except.ok.inj h
    constructor
  | alternativeRuleSet =>
    simp only [addCore, bind_ok_iff, located_ok_iff] at h
    obtain ⟨r, _, h⟩ := h
    unfold addAlternative at h
    split at h
    · cases h
    · obtain rfl := Except.ok.inj h
      constructor
  | tableElements | listItems =>
    simp only [addCore, bind_ok_iff] at h
    obtain ⟨_, _, h⟩ := h
    obtain rfl := Except.ok.inj h
    constructor

/-- A rule that is added takes its current name and changes the draft. -/
theorem changes_of_addRule (hp : p.Coherent) {name : String} {v : Value}
    (h : draft.addRule p name v = .ok next) :
    ∃ current, (Entry.rule name v).Takes p current ∧
      Changes p { draft with names := current :: draft.names } (.rule name v) next := by
  unfold addRule at h
  split at h
  · cases h
  · next found hfound =>
    have hdescribed := Provider.resolve_spec hp hfound
    have hleads : p.LeadsTo maxRenames name found.descriptor :=
      (Provider.resolveWithin_iff_leadsTo []).mp ⟨found, hfound, rfl⟩
    simp only [bind_ok_iff, take_ok_iff] at h
    obtain ⟨_, ⟨_, rfl⟩, _, _, arguments, _, h⟩ := h
    refine ⟨found.descriptor.name, .rule v hleads, ?_⟩
    split at h
    · obtain rfl := Except.ok.inj h
      constructor
    · next hchecking =>
      obtain rfl := Except.ok.inj h
      exact .patternRule name v _ hdescribed (by simpa using hchecking)

/-- An entry that is added takes a name and changes the draft. -/
theorem changes_of_add (hp : p.Coherent) {entry : Entry}
    (h : draft.add p read place entry = .ok next) :
    ∃ name, entry.Takes p name ∧
      Changes p { draft with names := name :: draft.names } entry next := by
  cases entry with
  | core key v =>
    simp only [add, bind_ok_iff, located_ok_iff, take_ok_iff] at h
    obtain ⟨_, ⟨_, rfl⟩, h⟩ := h
    exact ⟨key.name, .core key v, changes_of_addCore h⟩
  | rule name v => exact changes_of_addRule hp (located_ok_iff.mp h)

end Draft

end Rulebook
