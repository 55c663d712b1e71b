import Rulebook.Proofs.Challenge.Errors
import Rulebook.Proofs.Description.EntryOrder
import Rulebook.Proofs.Standard.Guards

/-!
# Injected guards

Where a description declares no type-checking rule and says nothing about children, one is put in
front that fits its first pattern rule. It turns down nothing that the declared rules let pass, so
that the subjects that pass the main rules are told by what was declared alone.
-/

namespace Rulebook

open Json (Value)

/-! ## Providers -/

/-- A provider has a guard for a tag, and a subject passes it. -/
def Provider.GuardPasses (p : Provider) (tag : TypeTag) (subject : Value) : Prop :=
  ∃ guard, p.typeGuard tag = some guard ∧ p.PassesType subject (Draft.injected guard)

/-- The guards of a provider answer, and let pass what pattern rules and lists of values do. -/
structure Provider.GuardsFit (p : Provider) : Prop where
  answers : ∀ {tag guard} (subject : Value), p.typeGuard tag = some guard →
    ∃ verdict, p.check guard subject [] = .ok verdict
  rule : ∀ {d subject q}, p.descriptor q.name = some d → d.isTypeChecking = false →
    p.PassesType subject q → p.GuardPasses d.semanticType subject
  listed : ∀ {v values subject}, enumValues false v = .ok values →
    p.isMember subject values = true → p.GuardPasses (enumTag values) subject

namespace Provider

/-- What passes the guard that the standard rules find for a tag passes that of their provider. -/
theorem guardPasses_of_passes [PatternEngine] {tag : TypeTag} {guard : StandardRule}
    {subject : Value}
    (hguard : StandardRule.guard? tag = some guard) (h : guard.Passes subject []) :
    standard.GuardPasses tag subject := by
  obtain ⟨covered, hmem, -⟩ := StandardRule.mem_guards_of_guard? hguard
  obtain ⟨verdict, hcheck, hpassed⟩ := h
  refine ⟨guard.name, by simp [standard, hguard], verdict, ?_, hpassed⟩
  have hfound := StandardRule.ofName?_of_mem_guards hmem
  simpa [standard, Draft.injected, Arguments.values, hfound] using hcheck

/-- A pattern rule that is no enumeration answers as running it does. -/
theorem passesPattern_of_check_error {p : Provider} {subject : Value} {q : Rule}
    {e : ProviderError} (hkind : q.kind ≠ .enumeration)
    (h : p.check q.name subject q.arguments.values = .error e) :
    p.passesPattern subject q = .error e := by
  unfold passesPattern
  cases hq : q.kind with
  | enumeration => exact absurd hq hkind
  | _ => simp only [h]

/-- The guards of the standard provider fit. -/
theorem standard_guardsFit [PatternEngine] : standard.GuardsFit where
  answers := by
    intro tag guard subject h
    obtain ⟨r, hr, rfl⟩ := Option.map_eq_some_iff.mp h
    obtain ⟨covered, hmem, -⟩ := StandardRule.mem_guards_of_guard? hr
    obtain ⟨verdict, hcheck, -⟩ := StandardRule.check_of_mem_guards hmem subject
    have hfound := StandardRule.ofName?_of_mem_guards hmem
    exact ⟨verdict, by simpa [standard, hfound] using hcheck⟩
  rule := by
    intro d subject q hdescribed hpattern hpasses
    obtain ⟨r, hr, rfl⟩ := Option.map_eq_some_iff.mp hdescribed
    obtain ⟨verdict, hcheck, hpassed⟩ := hpasses
    have hrun : r.Passes subject q.arguments.values :=
      ⟨verdict, by simpa [standard, hr] using hcheck, hpassed⟩
    obtain ⟨guard, hguard, hguarded⟩ := StandardRule.guard_passes_of_passes hpattern hrun
    exact guardPasses_of_passes hguard hguarded
  listed := by
    intro v values subject hvalues hmember
    obtain ⟨guard, hguard, hguarded⟩ :=
      guard_passes_of_memberOf (enumValues_spec hvalues).2 hmember
    exact guardPasses_of_passes hguard hguarded

end Provider

/-! ## Descriptions -/

/-- A description declares a pattern rule or an enumeration, with the tag that a guard has to
fit. -/
def Json.Value.DeclaresPattern (p : Provider) (v : Value) (tag : TypeTag) (q : Rule) : Prop :=
  ∃ entry ∈ v.entries,
    entry.Says p (Ruleset.ofDescriptionAt p) .root (.patternRule tag q)

/-- A description leaves the choice of a type-checking rule to its pattern rules: it declares none,
says nothing about children, and does not let empty subjects pass. -/
structure Json.Value.LeavesGuard (p : Provider) (v : Value) : Prop where
  typeless : ∀ entry ∈ v.entries, entry.declaresTypeRule p = false
  tableless : ¬v.Declares .tableElements
  listless : ¬v.Declares .listItems
  strict : .core .empty (.bool true) ∉ v.entries

variable {p : Provider}

/-- Which pattern rule an entry declares does not depend on the descriptions inside. -/
theorem Entry.Says.patternRule_anywhere {read read' : RulesetReader} {place place' : Location}
    {entry : Entry} {tag : TypeTag} {q : Rule} (h : entry.Says p read place (.patternRule tag q)) :
    entry.Says p read' place' (.patternRule tag q) := by
  cases h with
  | patternRule resolved given usable checking => exact .patternRule resolved given usable checking
  | enum lists => exact .enum lists

/-- A subject that passes a declared pattern rule passes the guard that fits the rule. -/
theorem Entry.Says.guardPasses {read : RulesetReader} {place : Location} {entry : Entry}
    {tag : TypeTag} {q : Rule} (hcoherent : p.Coherent) (hfit : p.GuardsFit)
    (h : entry.Says p read place (.patternRule tag q)) {subject : Value}
    (hpasses : p.PassesPattern subject q) : p.GuardPasses tag subject := by
  cases h with
  | @patternRule name v found arguments resolved given usable checking =>
    have hkind : (found.rule arguments).kind = .pattern := by
      simp [Resolved.rule, Resolved.kind, checking]
    have hpasses : p.PassesType subject (found.rule arguments) := by
      simpa [Provider.PassesPattern, hkind] using hpasses
    exact hfit.rule (Provider.resolve_spec hcoherent resolved) checking hpasses
  | enum lists => exact hfit.listed lists hpasses

/-! ## What was said -/

section Said

variable {read : RulesetReader} {place : Location} {entries : List Entry} {said : List Statement}
  (hsaid : List.Forall₂ (Entry.Says p read place) entries said) {s : Statement} {entry : Entry}

include hsaid

/-- What was said was said by an entry. -/
theorem exists_entry_of_mem_said (h : s ∈ said) : ∃ entry ∈ entries, entry.Says p read place s := by
  induction hsaid with
  | nil => cases h
  | @cons first s' rest others hfirst _ ih =>
    rcases List.mem_cons.mp h with rfl | hrest
    · exact ⟨first, List.mem_cons_self, hfirst⟩
    · obtain ⟨entry, hentry, hsays⟩ := ih hrest
      exact ⟨entry, List.mem_cons_of_mem _ hentry, hsays⟩

/-- What an entry says was said. -/
theorem mem_said_of_says (hentry : entry ∈ entries) (h : entry.Says p read place s) : s ∈ said := by
  induction hsaid with
  | nil => cases hentry
  | cons hfirst _ ih =>
    rcases List.mem_cons.mp hentry with rfl | hrest
    · exact h.unique hfirst ▸ List.mem_cons_self
    · exact List.mem_cons_of_mem _ (ih hrest)

/-- It was said that empty subjects fail if there is such an entry. -/
theorem nonEmpty_mem_said_iff : .nonEmpty true ∈ said ↔ .core .nonEmpty (.bool true) ∈ entries := by
  constructor
  · intro h
    obtain ⟨entry, hentry, hsays⟩ := exists_entry_of_mem_said hsaid h
    cases hsays
    exact hentry
  · exact fun h => mem_said_of_says hsaid h (.nonEmpty true)

/-- It was said that empty subjects pass if there is such an entry. -/
theorem empty_mem_said_iff : .empty true ∈ said ↔ .core .empty (.bool true) ∈ entries := by
  constructor
  · intro h
    obtain ⟨entry, hentry, hsays⟩ := exists_entry_of_mem_said hsaid h
    cases hsays
    exact hentry
  · exact fun h => mem_said_of_says hsaid h (.empty true)

/-- No type-checking rule was declared if no entry declares one. -/
theorem typeRules_said_eq_nil (htypeless : ∀ entry ∈ entries, entry.declaresTypeRule p = false) :
    said.filterMap Statement.typeRule? = [] := by
  refine List.filterMap_eq_nil_iff.mpr fun s hs => ?_
  obtain ⟨entry, hentry, hsays⟩ := exists_entry_of_mem_said hsaid hs
  have hnone := hsays.declaresTypeRule_eq
  rw [htypeless entry hentry] at hnone
  cases htype : s.typeRule? with
  | none => rfl
  | some q => simp [htype] at hnone

end Said

namespace Ruleset

section Collected

variable {description : Value} {place : Location} {r : Ruleset} {said : List Statement}
  (hsaid : List.Forall₂ (Entry.Says p (ofDescriptionAt p) place) description.entries said)
  (hcollects : r.Collects p said)

include hsaid hcollects

/-- The pattern rules of a ruleset are those that its description declares. -/
theorem mem_patternRules_iff {q : Rule} :
    q ∈ r.patternRules ↔ ∃ tag, description.DeclaresPattern p tag q := by
  rw [hcollects.patternRules]
  constructor
  · intro h
    obtain ⟨⟨tag, _⟩, hmem, rfl⟩ := List.mem_map.mp h
    obtain ⟨s, hs, hpattern⟩ := List.mem_filterMap.mp hmem
    cases s with
    | patternRule tag' q' =>
      cases hpattern
      obtain ⟨entry, hentry, hsays⟩ := exists_entry_of_mem_said hsaid hs
      exact ⟨tag, entry, hentry, hsays.patternRule_anywhere⟩
    | _ => cases hpattern
  · rintro ⟨tag, entry, hentry, hsays⟩
    have hs := mem_said_of_says hsaid hentry hsays.patternRule_anywhere
    exact List.mem_map.mpr ⟨(tag, q), List.mem_filterMap.mpr ⟨_, hs, rfl⟩, rfl⟩

/-- Where the choice of a type-checking rule is left to pattern rules, it is a guard that fits one
of them, or there is none. -/
theorem typeRules_cases (hleaves : description.LeavesGuard p) :
    r.typeRules = [] ∨ ∃ tag q guard, description.DeclaresPattern p tag q ∧
      p.typeGuard tag = some guard ∧ r.typeRules = [Draft.injected guard] := by
  have htypeless := typeRules_said_eq_nil hsaid hleaves.typeless
  have hchildless : ¬((∃ t, .tableElements t ∈ said) ∨ ∃ l, .listItems l ∈ said) := by
    rintro (⟨t, ht⟩ | ⟨l, hl⟩)
    · obtain ⟨entry, hentry, hsays⟩ := exists_entry_of_mem_said hsaid ht
      cases hsays
      exact hleaves.tableless ⟨_, hentry⟩
    · obtain ⟨entry, hentry, hsays⟩ := exists_entry_of_mem_said hsaid hl
      cases hsays
      exact hleaves.listless ⟨_, hentry⟩
  have htypes := hcollects.typeRules
  generalize r.typeRules = types at htypes
  cases htypes with
  | declared hdeclared => exact absurd htypeless hdeclared
  | containers _ hchildren => exact absurd hchildren hchildless
  | unguarded => exact Or.inl rfl
  | @firstPattern _ _ tag q guard first guards =>
    obtain ⟨s, hs, hpattern⟩ := List.mem_filterMap.mp (List.mem_of_head? first)
    cases s with
    | patternRule tag' q' =>
      cases hpattern
      obtain ⟨entry, hentry, hsays⟩ := exists_entry_of_mem_said hsaid hs
      exact Or.inr ⟨tag, q, guard, ⟨entry, hentry, hsays.patternRule_anywhere⟩, guards, rfl⟩
    | _ => cases hpattern

/-- A subject passes the rules of a ruleset whose guard was chosen exactly if it passes the declared
ones, and is not empty where that was declared. -/
theorem passesRules_iff_declared (hcoherent : p.Coherent) (hfit : p.GuardsFit)
    (hleaves : description.LeavesGuard p) (subject : Value) :
    r.PassesRules p subject ↔
      (∀ tag q, description.DeclaresPattern p tag q → p.PassesPattern subject q) ∧
        (.core .nonEmpty (.bool true) ∈ description.entries → p.isEmpty subject = false) := by
  have hflag : r.emptiness = some .nonEmpty ↔
      .core .nonEmpty (.bool true) ∈ description.entries :=
    hcollects.nonEmpty.trans (nonEmpty_mem_said_iff hsaid)
  constructor
  · rintro ⟨-, hnonEmpty, hpatterns⟩
    refine ⟨fun tag q hq => ?_, fun hdeclared => ?_⟩
    · exact hpatterns q ((mem_patternRules_iff hsaid hcollects).mpr ⟨tag, hq⟩)
    · exact Bool.eq_false_iff.mpr fun hempty => hnonEmpty ⟨hflag.mpr hdeclared, hempty⟩
  · rintro ⟨hpatterns, hnonEmpty⟩
    refine ⟨?_, ?_, ?_⟩
    · rcases typeRules_cases hsaid hcollects hleaves with
        hnone | ⟨tag, q, guard, hq, hguard, hone⟩
      · simp [hnone]
      · obtain ⟨entry, _, hsays⟩ := hq
        obtain ⟨guard', hguard', hpasses⟩ :=
          hsays.guardPasses hcoherent hfit (hpatterns tag q ⟨entry, ‹_›, hsays⟩)
        obtain rfl := Option.some.inj (hguard.symm.trans hguard')
        simpa [hone] using hpasses
    · rintro ⟨hdeclared, hempty⟩
      rw [hnonEmpty (hflag.mp hdeclared)] at hempty
      cases hempty
    · intro q hq
      obtain ⟨tag, hdeclares⟩ := (mem_patternRules_iff hsaid hcollects).mp hq
      exact hpatterns tag q hdeclares

/-- The main rules of a ruleset whose guard was chosen answer if the declared ones do. -/
theorem exists_mainVerdict_of_declared (hfit : p.GuardsFit) (hleaves : description.LeavesGuard p)
    {subject : Value}
    (hanswers : ∀ tag q, description.DeclaresPattern p tag q →
      ∃ passed, p.passesPattern subject q = .ok passed) :
    ∃ verdict, p.mainVerdict r subject = .ok verdict := by
  cases hverdict : p.mainVerdict r subject with
  | ok verdict => exact ⟨verdict, rfl⟩
  | error e =>
    exfalso
    obtain ⟨-, rule, hruns, herror⟩ := Provider.exists_of_mainVerdict_error hverdict
    rcases hruns with htype | ⟨hpattern, hkind⟩
    · rcases typeRules_cases hsaid hcollects hleaves with
        hnone | ⟨_, _, guard, _, hguard, hone⟩
      · simp [hnone] at htype
      · obtain rfl : rule = Draft.injected guard := by simpa [hone] using htype
        obtain ⟨verdict, hcheck⟩ := hfit.answers subject hguard
        have hcheck' := hcheck.symm.trans herror
        cases hcheck'
    · obtain ⟨tag, hdeclares⟩ := (mem_patternRules_iff hsaid hcollects).mp hpattern
      obtain ⟨passed, hpassed⟩ := hanswers tag rule hdeclares
      rw [Provider.passesPattern_of_check_error hkind herror] at hpassed
      cases hpassed

end Collected

/-- Where no empty subject is let pass, a subject other than null passes the main rules exactly if
it passes the rules of the ruleset. -/
theorem passed_iff_passesRules (hp : p.KnowsContainers) {r : Ruleset} {subject : Value}
    {verdict : MainVerdict} (hnull : subject.isNull = false) (hstrict : r.emptiness ≠ some .empty)
    (h : p.mainVerdict r subject = .ok verdict) :
    (∃ told, verdict = .passed told) ↔ r.PassesRules p subject := by
  have hfits := Provider.mainVerdict_fits hp h
  cases verdict with
  | passed told => exact iff_of_true ⟨told, rfl⟩ hfits.2.1
  | settled =>
    have hempty : r.PassesEmpty p subject := by simpa [MainVerdict.Fits, hnull] using hfits
    exact absurd hempty.2.1 hstrict
  | failed shortfall =>
    have hfails : ¬r.PassesEmpty p subject ∧ ¬r.PassesRules p subject := by
      simpa [MainVerdict.Fits, hnull] using hfits
    refine iff_of_false ?_ hfails.2
    rintro ⟨_, hpassed⟩
    cases hpassed

/-- Where a description leaves the choice of a type-checking rule to its pattern rules, and these
answer about a subject other than null, the main rules answer as well, and let it pass exactly if it
passes every declared pattern rule and enumeration, and is not empty where that was declared.
Whatever passes a pattern rule, with whichever arguments, passes the guard for the tag of the rule;
and what an enumeration lists passes the guard for the tag of the list. -/
theorem injectedGuard_never_rejects [PatternEngine] :
    (∀ description place r, ofDescriptionAt .standard description place = .ok r →
      description.LeavesGuard .standard →
      ∀ subject : Value, subject.isNull = false →
      (∀ tag q, description.DeclaresPattern .standard tag q →
        ∃ passed, Provider.standard.passesPattern subject q = .ok passed) →
      ∃ verdict, Provider.standard.mainVerdict r subject = .ok verdict ∧
        ((∃ told, verdict = .passed told) ↔ r.PassesRules .standard subject) ∧
        (r.PassesRules .standard subject ↔
          (∀ tag q, description.DeclaresPattern .standard tag q →
            Provider.standard.PassesPattern subject q) ∧
          (.core .nonEmpty (.bool true) ∈ description.entries →
            Provider.standard.isEmpty subject = false))) ∧
    (∀ q d subject, Provider.standard.descriptor q.name = some d → d.isTypeChecking = false →
      Provider.standard.PassesType subject q →
      Provider.standard.GuardPasses d.semanticType subject) ∧
    ∀ v values subject, enumValues false v = .ok values →
      Provider.standard.isMember subject values = true →
      Provider.standard.GuardPasses (enumTag values) subject := by
  have hfit := Provider.standard_guardsFit
  refine ⟨?_, fun _ _ _ => hfit.rule, fun _ _ _ => hfit.listed⟩
  intro description place r hread hleaves subject hnull hanswers
  obtain ⟨-, -, said, hsaid, -, hcollects⟩ := ofDescriptionAt_ok_iff.mp hread
  obtain ⟨verdict, hverdict⟩ :=
    exists_mainVerdict_of_declared hsaid hcollects hfit hleaves hanswers
  have hstrict : r.emptiness ≠ some .empty := fun hempty =>
    hleaves.strict ((empty_mem_said_iff hsaid).mp (hcollects.empty.mp hempty))
  exact ⟨verdict, hverdict,
    passed_iff_passesRules Provider.standard_knowsContainers hnull hstrict hverdict,
    passesRules_iff_declared hsaid hcollects Provider.standard_coherent hfit hleaves subject⟩

/-- Texts of three bytes at most, the empty one left out. -/
def shortName : Value :=
  .object [("maxLength", .number (.int 3)), ("nonEmpty", .bool true)]

/-- A short text passes the guard for texts that stands in front, and is let pass. -/
theorem shortName_accepts :
    ∃ r, ofDescriptionAt .standard shortName .root = .ok r ∧
      r.typeRules = [Draft.injected "string"] ∧
      (∃ told, Provider.standard.mainVerdict r (.string "abc") = .ok (.passed told)) ∧
      r.PassesRules .standard (.string "abc") ∧
      Provider.standard.GuardPasses .string (.string "abc") := by
  obtain ⟨r, hread, htypes, hpatterns⟩ :
      ∃ r, ofDescriptionAt .standard shortName .root = .ok r ∧
        r.typeRules = [Draft.injected "string"] ∧
        r.patternRules = [⟨"maxLength", .list [.number (.int 3)], .pattern, []⟩] :=
    ⟨_, rfl, rfl, rfl⟩
  have hentries : shortName.entries =
      [.rule "maxLength" (.number (.int 3)), .core .nonEmpty (.bool true)] := rfl
  have hleaves : shortName.LeavesGuard .standard := by
    constructor
    · rw [hentries]
      decide
    all_goals simp [Value.Declares, hentries]
  have hdeclares : ∀ tag q, shortName.DeclaresPattern .standard tag q →
      q = ⟨"maxLength", .list [.number (.int 3)], .pattern, []⟩ := by
    intro tag q hq
    obtain ⟨-, -, said, hsaid, -, hcollects⟩ := ofDescriptionAt_ok_iff.mp hread
    have hmem := (mem_patternRules_iff hsaid hcollects).mpr ⟨tag, hq⟩
    simpa [hpatterns] using hmem
  have hpasses : Provider.standard.passesPattern (.string "abc")
      ⟨"maxLength", .list [.number (.int 3)], .pattern, []⟩ = .ok true := rfl
  obtain ⟨hmain, hrule, -⟩ := injectedGuard_never_rejects
  obtain ⟨verdict, hverdict, hpassed, hiff⟩ := hmain shortName .root r hread hleaves
    (.string "abc") rfl fun tag q hq => ⟨true, hdeclares tag q hq ▸ hpasses⟩
  have hrules : r.PassesRules .standard (.string "abc") := by
    refine hiff.mpr ⟨fun tag q hq => ?_, fun _ => by decide⟩
    rw [hdeclares tag q hq]
    exact (Provider.passesPattern_iff hpasses).mp rfl
  obtain ⟨told, rfl⟩ := hpassed.mpr hrules
  refine ⟨r, hread, htypes, ⟨told, hverdict⟩, hrules, ?_⟩
  exact hrule ⟨"maxLength", .list [.number (.int 3)], .pattern, []⟩ _ _ rfl rfl ⟨.pass, rfl, rfl⟩

end Ruleset

end Rulebook
