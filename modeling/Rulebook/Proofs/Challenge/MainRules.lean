import Rulebook.Challenge.MainRules
import Rulebook.Proofs.Challenge.Meaning
import Rulebook.Standard.Provider

/-!
# The main rules and their meaning

The main rules of a ruleset are run in order and up to the first that fails. What they say is which
case of the meaning of the ruleset a subject is in. A kind of container that a rule has told is that
of a container.
-/

namespace Rulebook

open Json (Value)

/-- A provider knows containers if it finds a kind for arrays and objects alone, and its rules tell
a kind of nothing else. -/
structure Provider.KnowsContainers (p : Provider) : Prop where
  kind : ∀ v, (p.containerKind v).isSome = v.isContainer
  told : ∀ {name v args kind}, p.check name v args = .ok (.container kind) → v.isContainer = true

namespace StandardRule

/-- A rule without arguments tells no kind of container. -/
theorem plain_ne_container {test : Value → Bool} {v : Value} {kind : ContainerKind} :
    plain test v ≠ .ok (.container kind) := by
  intro h
  have hverdict := Except.ok.inj h
  cases htest : test v <;> simp [Verdict.of, htest] at hverdict

/-- A rule with arguments tells no kind of container. -/
theorem tested_ne_container {answer : Standard.Answer Bool} {kind : ContainerKind} :
    tested answer ≠ .ok (.container kind) := by
  intro h
  cases answer with
  | error e => cases h
  | ok passed =>
    have hverdict : Verdict.of passed = .container kind := Except.ok.inj h
    cases passed <;> simp [Verdict.of] at hverdict

/-- A standard rule that tells a kind of container tells that of the subject. -/
theorem containerKind_of_check [PatternEngine] {r : StandardRule} {v : Value} {args : List Value}
    {kind : ContainerKind} (h : r.check v args = .ok (.container kind)) :
    Standard.containerKind v = some kind := by
  cases r <;> first
    | exact absurd h plain_ne_container
    | exact absurd h tested_ne_container
    | (cases v <;> cases h <;> rfl)

end StandardRule

/-- A provider tells the kinds of containers right, when it is asked and by its rules. -/
structure Provider.TellsKinds (p : Provider) : Prop where
  kind : ∀ v, p.containerKind v = Standard.containerKind v
  told : ∀ {name v args kind}, p.check name v args = .ok (.container kind) →
    Standard.containerKind v = some kind

/-- The standard provider tells the kinds of containers right. -/
theorem Provider.standard_tellsKinds [PatternEngine] : Provider.standard.TellsKinds where
  kind _ := rfl
  told := by
    intro name v args kind h
    cases hrule : StandardRule.ofName? name with
    | none =>
      simp only [Provider.standard, hrule] at h
      cases h
    | some r =>
      simp only [Provider.standard, hrule] at h
      exact StandardRule.containerKind_of_check h

/-- Containers are what has a kind. -/
theorem isSome_containerKind (v : Value) : (Standard.containerKind v).isSome = v.isContainer := by
  cases v <;> rfl

/-- A provider that tells kinds right knows containers. -/
theorem Provider.TellsKinds.knowsContainers {p : Provider} (h : p.TellsKinds) :
    p.KnowsContainers where
  kind v := by rw [h.kind, isSome_containerKind]
  told hcheck := by rw [← isSome_containerKind, h.told hcheck, Option.isSome_some]

/-- The standard provider knows containers. -/
theorem Provider.standard_knowsContainers [PatternEngine] : Provider.standard.KnowsContainers :=
  Provider.standard_tellsKinds.knowsContainers

namespace Provider

variable {p : Provider} {subject : Value}

/-- What the type-checking rules say. -/
theorem checkTypes_spec (hp : p.KnowsContainers) (subject : Value)
    (told : Option ContainerKind) (rules : List Rule)
    (htold : told.isSome = true → subject.isContainer = true) :
    (∀ {told'}, p.checkTypes subject told rules = .ok (.ok told') →
      (∀ t ∈ rules, p.PassesType subject t) ∧
        (told'.isSome = true → subject.isContainer = true)) ∧
    (∀ {failed}, p.checkTypes subject told rules = .ok (.error failed) →
      ¬∀ t ∈ rules, p.PassesType subject t) := by
  induction rules generalizing told with
  | nil =>
    constructor
    · intro told' h
      have heq : told = told' := by simpa [checkTypes] using h
      exact ⟨by simp, heq ▸ htold⟩
    · intro failed h
      simp [checkTypes] at h
  | cons r rest ih =>
    cases hcheck : p.check r.name subject r.arguments.values with
    | error e =>
      constructor <;> intro _ h <;> simp [checkTypes, hcheck] at h
    | ok verdict =>
      cases hpassed : verdict.passed with
      | false =>
        constructor
        · intro told' h
          simp [checkTypes, hcheck, hpassed] at h
        · intro failed h hall
          obtain ⟨other, hother, hpasses⟩ := hall r List.mem_cons_self
          rw [hcheck] at hother
          cases hother
          rw [hpassed] at hpasses
          cases hpasses
      | true =>
        have hr : p.PassesType subject r := ⟨verdict, hcheck, hpassed⟩
        have hnext : (told <|> verdict.container?).isSome = true → subject.isContainer = true := by
          cases told with
          | some kind => exact htold
          | none =>
            cases verdict with
            | container kind => exact fun _ => hp.told hcheck
            | pass => simp [Verdict.container?]
            | fail => simp [Verdict.container?]
        have hrest := ih _ hnext
        constructor
        · intro told' h
          have h' : p.checkTypes subject (told <|> verdict.container?) rest = .ok (.ok told') := by
            simpa [checkTypes, hcheck, hpassed] using h
          have hspec := hrest.1 h'
          exact ⟨List.forall_mem_cons.mpr ⟨hr, hspec.1⟩, hspec.2⟩
        · intro failed h hall
          have h' :
              p.checkTypes subject (told <|> verdict.container?) rest = .ok (.error failed) := by
            simpa [checkTypes, hcheck, hpassed] using h
          exact hrest.2 h' (List.forall_mem_cons.mp hall).2

/-- A run of a pattern rule tells whether the subject passes it. -/
theorem passesPattern_iff {r : Rule} {passed : Bool} (h : p.passesPattern subject r = .ok passed) :
    passed = true ↔ p.PassesPattern subject r := by
  unfold passesPattern at h
  unfold PassesPattern
  cases hkind : r.kind with
  | enumeration =>
    simp only [hkind, Except.ok.injEq] at h
    rw [h]
  | _ =>
    simp only [hkind] at h
    cases hcheck : p.check r.name subject r.arguments.values with
    | error e => simp [hcheck] at h
    | ok verdict =>
      simp only [hcheck, Except.ok.injEq] at h
      simp [PassesType, hcheck, h]

/-- What the pattern rules say. -/
theorem failedPattern?_spec (p : Provider) (subject : Value) (rules : List Rule) :
    (p.failedPattern? subject rules = .ok none → ∀ q ∈ rules, p.PassesPattern subject q) ∧
    (∀ {failed}, p.failedPattern? subject rules = .ok (some failed) →
      ¬∀ q ∈ rules, p.PassesPattern subject q) := by
  induction rules with
  | nil => simp [failedPattern?]
  | cons r rest ih =>
    cases hpassed : p.passesPattern subject r with
    | error e => simp [failedPattern?, hpassed]
    | ok passed =>
      have hr := passesPattern_iff hpassed
      cases passed with
      | true =>
        have hr' : p.PassesPattern subject r := hr.mp rfl
        simpa [failedPattern?, hpassed, hr'] using ih
      | false =>
        have hr' : ¬p.PassesPattern subject r := fun h => by simpa using hr.mpr h
        simp [failedPattern?, hpassed, hr']

end Provider

/-- The case of its meaning that the main rules of a ruleset find a subject in. -/
def MainVerdict.Fits (p : Provider) (r : Ruleset) (subject : Value) : MainVerdict → Prop
  | .settled =>
    if subject.isNull then r.nullable = true else r.PassesEmpty p subject
  | .passed told =>
    subject.isNull = false ∧ r.PassesRules p subject ∧ ¬r.PassesEmpty p subject ∧
      (told.isSome = true → subject.isContainer = true)
  | .failed _ =>
    if subject.isNull then r.nullable = false
    else ¬r.PassesEmpty p subject ∧ ¬r.PassesRules p subject

/-- Behind the type-checking rules and the flag for empty subjects, the pattern rules find a subject
in the case that it is in. -/
theorem Provider.patternVerdict_fits {p : Provider} {r : Ruleset} {subject : Value}
    {told : Option ContainerKind} {verdict : MainVerdict} (hnull : subject.isNull = false)
    (htypes : ∀ t ∈ r.typeRules, p.PassesType subject t)
    (htold : told.isSome = true → subject.isContainer = true)
    (hempty : ¬(r.emptiness = some .empty ∧ p.isEmpty subject = true))
    (hnonEmpty : ¬(r.emptiness = some .nonEmpty ∧ p.isEmpty subject = true))
    (h : p.patternVerdict subject told r.patternRules = .ok verdict) :
    verdict.Fits p r subject := by
  have hnotEmpty : ¬r.PassesEmpty p subject := fun hpasses => hempty hpasses.2
  have hpatterns := failedPattern?_spec p subject r.patternRules
  unfold patternVerdict at h
  cases hfailed : p.failedPattern? subject r.patternRules with
  | error e => simp [hfailed] at h
  | ok failed =>
    cases failed with
    | none =>
      simp only [hfailed, Except.ok.injEq] at h
      subst h
      exact ⟨hnull, ⟨htypes, hnonEmpty, hpatterns.1 hfailed⟩, hnotEmpty, htold⟩
    | some q =>
      simp only [hfailed, Except.ok.injEq] at h
      subst h
      simp only [MainVerdict.Fits, hnull, Bool.false_eq_true, if_false]
      exact ⟨hnotEmpty, fun hpasses => hpatterns.2 hfailed hpasses.2.2⟩

/-- The main rules find a subject in the case that it is in. -/
theorem Provider.mainVerdict_fits {p : Provider} (hp : p.KnowsContainers) {r : Ruleset}
    {subject : Value} {verdict : MainVerdict} (h : p.mainVerdict r subject = .ok verdict) :
    verdict.Fits p r subject := by
  unfold mainVerdict at h
  cases hnull : subject.isNull with
  | true =>
    cases hnullable : r.nullable <;>
      · simp only [hnull, hnullable, if_true, Bool.false_eq_true, if_false, Except.ok.injEq] at h
        subst h
        simp [MainVerdict.Fits, hnull, hnullable]
  | false =>
    simp only [hnull, Bool.false_eq_true, if_false] at h
    have htypes := checkTypes_spec hp subject none r.typeRules (by simp)
    cases hcheck : p.checkTypes subject none r.typeRules with
    | error e => simp [hcheck] at h
    | ok checked =>
      cases checked with
      | error failed =>
        have hfails := htypes.2 hcheck
        simp only [hcheck, Except.ok.injEq] at h
        subst h
        simp only [MainVerdict.Fits, hnull, Bool.false_eq_true, if_false]
        exact ⟨fun hempty => hfails hempty.1, fun hpasses => hfails hpasses.1⟩
      | ok told =>
        obtain ⟨hpasses, htold⟩ := htypes.1 hcheck
        simp only [hcheck] at h
        cases hemptiness : r.emptiness with
        | none =>
          simp only [hemptiness] at h
          exact patternVerdict_fits hnull hpasses htold (by simp [hemptiness])
            (by simp [hemptiness]) h
        | some emptiness =>
          cases hempty : p.isEmpty subject with
          | false =>
            have hpattern : p.patternVerdict subject told r.patternRules = .ok verdict := by
              cases emptiness <;> simpa [hemptiness, hempty] using h
            exact patternVerdict_fits hnull hpasses htold (by simp [hempty]) (by simp [hempty])
              hpattern
          | true =>
            cases emptiness with
            | empty =>
              simp only [hemptiness, hempty, if_true, Except.ok.injEq] at h
              subst h
              simp only [MainVerdict.Fits, hnull, Bool.false_eq_true, if_false]
              exact ⟨hpasses, hemptiness, hempty⟩
            | nonEmpty =>
              simp only [hemptiness, hempty, if_true, Except.ok.injEq] at h
              subst h
              simp only [MainVerdict.Fits, hnull, Bool.false_eq_true, if_false]
              constructor
              · rintro ⟨_, hflag, _⟩
                rw [hemptiness] at hflag
                cases hflag
              · rintro ⟨_, hnonEmpty, _⟩
                exact hnonEmpty ⟨hemptiness, hempty⟩

/-! ## Cases of the meaning -/

namespace MainVerdict

variable {p : Provider} {r : Ruleset} {subject : Value} {alternative table items : Prop}

/-- A subject that the main rules let pass with its children is accepted. -/
theorem Fits.acceptsNode_of_settled (h : Fits p r subject .settled) :
    r.AcceptsNode p subject alternative table items := by
  unfold Fits at h
  unfold Ruleset.AcceptsNode
  cases hnull : subject.isNull with
  | true =>
    simp only [hnull, if_true] at h ⊢
    exact Or.inl h
  | false =>
    simp only [hnull, Bool.false_eq_true, if_false] at h ⊢
    exact Or.inl h

/-- A subject that passes the main rules is accepted if its children are. -/
theorem Fits.acceptsNode_iff_of_passed {told : Option ContainerKind}
    (h : Fits p r subject (.passed told)) :
    r.AcceptsNode p subject alternative table items ↔
      r.AcceptsChildren subject table items := by
  obtain ⟨hnull, hpasses, hempty, _⟩ := h
  simp [Ruleset.AcceptsNode, hnull, hpasses, hempty]

/-- A subject that fails the main rules is accepted if a fallback rescues it, and its children are
accepted unless it is rescued by a value or is null. -/
theorem Fits.acceptsNode_iff_of_failed {shortfall : Shortfall}
    (h : Fits p r subject (.failed shortfall)) :
    r.AcceptsNode p subject alternative table items ↔
      (subject.isNull = false ∧ r.ListsAlternative p subject) ∨
      (alternative ∧ (subject.isNull = true ∨ r.AcceptsChildren subject table items)) := by
  unfold Fits at h
  unfold Ruleset.AcceptsNode
  cases hnull : subject.isNull with
  | true =>
    simp only [hnull, if_true] at h
    simp [h]
  | false =>
    simp only [hnull, Bool.false_eq_true, if_false] at h
    simp [h.1, h.2]

end MainVerdict

/-- The values of a fallback rescue a subject that is one of them and not null. -/
theorem rescuedByValue_iff (p : Provider) (r : Ruleset) (subject : Value) :
    rescuedByValue p subject r.alternativeEnum = true ↔
      subject.isNull = false ∧ r.ListsAlternative p subject := by
  unfold rescuedByValue Ruleset.ListsAlternative
  cases r.alternativeEnum <;> simp

end Rulebook
