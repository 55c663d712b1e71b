import Rulebook.Proofs.Challenge.Acceptance
import Rulebook.Proofs.Challenge.Failures

/-!
# The full record

The record of a walk that goes on behind failures is the list of all that is wrong with the subject,
once and in order. Each step of the walk adds what its parts find, and what is taken back is what the
list leaves out: the failures of a fallback, and those of a table or list whose partner lets the
subject pass.
-/

namespace Rulebook

open Json (Value)

/-! ## The main rules -/

namespace Provider

variable {p : Provider} {subject : Value}

/-- The type-checking rules stop at the first that the subject does not pass, and if there is none, the
first to tell a kind of container has told it. -/
theorem checkTypes_eq {told : Option ContainerKind} {rules : List Rule}
    {checked : Except Rule (Option ContainerKind)}
    (h : p.checkTypes subject told rules = .ok checked) :
    checked =
      match rules.find? fun q => !p.passed subject q with
      | some q => .error q
      | none => .ok (told <|> rules.findSome? (p.told? subject)) := by
  induction rules generalizing told with
  | nil =>
    have heq : Except.ok told = checked := by simpa [checkTypes] using h
    simp [← heq]
  | cons q rest ih =>
    cases hcheck : p.check q.name subject q.arguments.values with
    | error e => simp [checkTypes, hcheck] at h
    | ok verdict =>
      have hpassed : p.passed subject q = verdict.passed := by simp [passed, hcheck]
      have htold : p.told? subject q = verdict.container? := by simp [told?, hcheck]
      cases hverdict : verdict.passed with
      | false =>
        have heq : Except.error q = checked := by simpa [checkTypes, hcheck, hverdict] using h
        simp [← heq, hpassed, hverdict]
      | true =>
        have hrest : p.checkTypes subject (told <|> verdict.container?) rest = .ok checked := by
          simpa [checkTypes, hcheck, hverdict] using h
        have hfind : ((q :: rest).find? fun q => !p.passed subject q) =
            rest.find? fun q => !p.passed subject q := by
          simp [hpassed, hverdict]
        rw [ih hrest, hfind, List.findSome?_cons, htold]
        cases told <;> cases verdict.container? <;> rfl

/-- A run of a pattern rule tells whether the subject passes it. -/
theorem passesPattern_eq {q : Rule} {passed : Bool} (h : p.passesPattern subject q = .ok passed) :
    p.passedPattern subject q = passed := by
  unfold passesPattern at h
  unfold passedPattern
  cases hkind : q.kind with
  | enumeration => simpa [hkind] using h
  | _ =>
    simp only [hkind] at h ⊢
    cases hcheck : p.check q.name subject q.arguments.values with
    | error e => simp [hcheck] at h
    | ok verdict => simpa [hcheck, Provider.passed] using h

/-- The pattern rules stop at the first that the subject does not pass. -/
theorem failedPattern?_eq {rules : List Rule} {failed : Option Rule}
    (h : p.failedPattern? subject rules = .ok failed) :
    failed = rules.find? fun q => !p.passedPattern subject q := by
  induction rules with
  | nil =>
    have heq : none = failed := by simpa [failedPattern?] using h
    simp [← heq]
  | cons q rest ih =>
    cases hpassed : p.passesPattern subject q with
    | error e => simp [failedPattern?, hpassed] at h
    | ok passed =>
      have heq := passesPattern_eq hpassed
      cases passed with
      | true =>
        have hrest : p.failedPattern? subject rest = .ok failed := by
          simpa [failedPattern?, hpassed] using h
        simp [heq, ih hrest]
      | false =>
        have hfailed : some q = failed := by simpa [failedPattern?, hpassed] using h
        simp [heq, ← hfailed]

/-- Where the pattern rules come to a verdict, it is the case that the subject is in. -/
theorem patternVerdict_eq {told : Option ContainerKind} {rules : List Rule} {verdict : MainVerdict}
    (h : p.patternVerdict subject told rules = .ok verdict) :
    p.patternOutcome subject told rules = verdict := by
  unfold patternVerdict at h
  unfold patternOutcome
  cases hfailed : p.failedPattern? subject rules with
  | error e => simp [hfailed] at h
  | ok failed =>
    rw [← failedPattern?_eq hfailed]
    cases failed <;> simpa [hfailed] using h

/-- Where the main rules come to a verdict, it is the case that the subject is in. -/
theorem mainVerdict_eq {r : Ruleset} {verdict : MainVerdict}
    (h : p.mainVerdict r subject = .ok verdict) : r.mainOutcome p subject = verdict := by
  unfold mainVerdict at h
  unfold Ruleset.mainOutcome
  cases hnull : subject.isNull with
  | true => simpa [hnull] using h
  | false =>
    simp only [hnull, Bool.false_eq_true, if_false] at h ⊢
    cases hcheck : p.checkTypes subject none r.typeRules with
    | error e => simp [hcheck] at h
    | ok checked =>
      have htypes := checkTypes_eq hcheck
      cases hfind : r.typeRules.find? fun q => !p.passed subject q with
      | some q =>
        simp only [hfind] at htypes ⊢
        simpa [hcheck, htypes] using h
      | none =>
        simp only [hfind, Option.orElse_eq_orElse,
          Option.orElse_eq_or, Option.none_or] at htypes ⊢
        simp only [hcheck, htypes] at h
        generalize r.typeRules.findSome? (p.told? subject) = told at h ⊢
        cases hemptiness : r.emptiness with
        | none =>
          simp only [hemptiness] at h
          simpa using patternVerdict_eq h
        | some e =>
          cases hempty : p.isEmpty subject with
          | false =>
            have hpatterns : p.patternVerdict subject told r.patternRules = .ok verdict := by
              cases e <;> simpa [hemptiness, hempty] using h
            simpa using patternVerdict_eq hpatterns
          | true => cases e <;> simpa [hemptiness, hempty] using h

end Provider

/-! ## Walks that find failures -/

/-- A walk finds failures if these are what it adds wherever it comes to a verdict, and the verdict
tells whether there are any. -/
def Walk.Finds (w : Walk Bool) (found : List Failure) : Prop :=
  ∃ e, w.HasEffect e ∧
    ∀ verdict, e.result = .ok verdict → e.added = found ∧ (verdict = true ↔ found = [])

namespace Walk.Finds

variable {a b c : Walk Bool} {x y z : List Failure}

/-- A positive verdict finds nothing. -/
theorem accepted : Finds (pure true) [] :=
  ⟨_, .accepted, fun verdict h => by simp [← Except.ok.inj h, Effect.accepted]⟩

/-- A walk without a verdict finds anything. -/
theorem aborted (e : ChallengeError) : Finds (throw e) x :=
  ⟨_, .aborted e, fun _ h => by cases h⟩

/-- A failure is found. -/
theorem failed (place : Location) (subject : Value) (kind : FailureKind) :
    Finds (.fail .all place subject kind) [failureOf subject place kind] :=
  ⟨_, .failed .all place subject kind, fun verdict h => by
    simp [← Except.ok.inj h, Effect.failed, RecordMode.records, failureOf]⟩

/-- Two walks that both have to pass find what each of them finds, one after the other. -/
theorem both (ha : Finds a x) (hb : Finds b y) : Finds (.both .all a b) (x ++ y) := by
  obtain ⟨ea, hea, hfa⟩ := ha
  obtain ⟨eb, heb, hfb⟩ := hb
  refine ⟨_, hea.both heb, fun verdict h => ?_⟩
  obtain ⟨u, v, hu, hv, rfl⟩ := (Effect.result_both_of_goesOn rfl).mp h
  obtain ⟨haddeda, hua⟩ := hfa u hu
  obtain ⟨haddedb, hvb⟩ := hfb v hv
  constructor
  · cases u <;> simp [Effect.both, hu, RecordMode.goesOn, haddeda, haddedb]
  · rw [Bool.and_eq_true, hua, hvb, List.append_eq_nil_iff]

/-- A walk with another one that stands in for it finds nothing if one of the two does. -/
theorem orElse (ha : Finds a x) (hb : Finds b y) : Finds (a.orElse b) (bothFailures x y) := by
  obtain ⟨ea, hea, hfa⟩ := ha
  obtain ⟨eb, heb, hfb⟩ := hb
  refine ⟨_, hea.orElse heb, fun verdict h => ?_⟩
  rw [Effect.result_orElse] at h
  cases hu : ea.result with
  | error e =>
    rw [hu] at h
    cases h
  | ok u =>
    obtain ⟨haddeda, hua⟩ := hfa u hu
    rw [hu] at h
    cases u with
    | true =>
      have hx : x = [] := hua.mp rfl
      simp [Effect.orElse, hu, haddeda, hx, bothFailures, ← Except.ok.inj h]
    | false =>
      obtain ⟨haddedb, hvb⟩ := hfb verdict h
      have hx : x ≠ [] := fun hnil => by simpa using hua.mpr hnil
      cases verdict with
      | true =>
        have hy : y = [] := hvb.mp rfl
        simp [Effect.orElse, hu, h, Effect.accepted, hy, bothFailures]
      | false =>
        have hy : y ≠ [] := fun hnil => by simpa using hvb.mpr hnil
        simp [Effect.orElse, hu, h, haddeda, haddedb, bothFailures, hx, hy]

/-- A fallback that finds nothing leaves what follows, one that finds something what stands against
it. -/
theorem branch (ha : Finds a x) (hb : Finds b y) (hc : Finds c z) :
    Finds (do if ← a.unrecorded then b else c) (if x.isEmpty then y else z) := by
  obtain ⟨ea, hea, hfa⟩ := ha
  obtain ⟨eb, heb, hfb⟩ := hb
  obtain ⟨ec, hec, hfc⟩ := hc
  refine ⟨_, hea.branch heb hec, fun verdict h => ?_⟩
  rw [Effect.result_branch] at h
  cases hu : ea.result with
  | error e =>
    rw [hu] at h
    cases h
  | ok u =>
    obtain ⟨-, hua⟩ := hfa u hu
    rw [hu] at h
    cases u with
    | true =>
      have hx : x = [] := hua.mp rfl
      simpa [Effect.branch, hu, hx] using hfb verdict h
    | false =>
      have hx : x ≠ [] := fun hnil => by simpa using hua.mpr hnil
      simpa [Effect.branch, hu, hx] using hfc verdict h

/-- Steps over a list find what each of them finds, in order. -/
theorem every {α : Type} {step : α → Walk Bool} {found : α → List Failure} {list : List α}
    (hstep : ∀ a ∈ list, Finds (step a) (found a)) :
    Finds (.every .all step list) (list.flatMap found) := by
  induction list with
  | nil => exact accepted
  | cons a rest ih =>
    have hrest := ih fun b hb => hstep b (List.mem_cons_of_mem a hb)
    exact (hstep a List.mem_cons_self).both hrest

end Walk.Finds

/-! ## The walk -/

section Steps

variable {p : Provider} (subject : Value) (place : Location)

/-- A child at a table finds what is wrong with it. -/
theorem visitMember_finds {t : TableElements Ruleset} (kind : ContainerKind)
    (hchild : ∀ e ∈ t.elements, ∀ v place,
      (e.2.visit p .all v place).Finds (e.2.failures p v place))
    (child : String × Value) :
    (visitMember .all subject place kind t.membership
      (fun key => (Association.lookup key t.elements).map fun q => q.visit p .all) child).Finds
      (memberFailures subject place kind t.membership
        (fun key => (Association.lookup key t.elements).map fun q => q.failures p) child) := by
  unfold visitMember memberFailures
  cases hlookup : Association.lookup child.1 t.elements with
  | some q =>
    simp only [hlookup, Option.map_some]
    exact hchild _ (Association.mem_of_lookup hlookup) _ _
  | none =>
    simp only [hlookup, Option.map_none]
    cases t.membership.admits child.1 with
    | true => exact .accepted
    | false => exact .failed _ _ _

/-- The walk of a table finds what is wrong with the children at the table. -/
theorem visitTable_finds {t : TableElements Ruleset} (kind : ContainerKind)
    (hchild : ∀ e ∈ t.elements, ∀ v place,
      (e.2.visit p .all v place).Finds (e.2.failures p v place)) :
    (visitTable .all subject place t.membership t.elements
      (fun key => (Association.lookup key t.elements).map fun q => q.visit p .all) kind).Finds
      (tableFailures subject place t.membership t.elements
        (fun key => (Association.lookup key t.elements).map fun q => q.failures p) kind) := by
  refine .both (.every fun child _ => visitMember_finds subject place kind hchild child) ?_
  rw [List.map_eq_flatMap]
  exact .every fun key _ => .failed _ _ _

/-- At the first item above the bound it is found that there are too many. -/
theorem tooMany_finds (most : Option Nat) (seen : Nat) :
    Walk.Finds
      (match most with
        | some most =>
          if seen = most then .fail .all place subject (.tooMany most) else pure true
        | none => pure true)
      (if most = some seen then [failureOf subject place (.tooMany seen)] else []) := by
  cases most with
  | none => exact .accepted
  | some most =>
    by_cases hseen : seen = most
    · simp only [hseen, if_true]
      exact .failed _ _ _
    · have hne : some most ≠ some seen := fun heq => hseen (Option.some.inj heq).symm
      simp only [if_neg hseen, if_neg hne]
      exact .accepted

/-- The walk of some items finds what is wrong with each of them, and where there are too many. -/
theorem visitItemsFrom_finds {visit : Visit} {objections : Objections} (most : Option Nat)
    (kind : ContainerKind) (hvisit : ∀ v place, (visit v place).Finds (objections v place))
    (seen : Nat) (items : List (String × Value)) :
    (visitItemsFrom .all subject place most visit kind seen items).Finds
      ((items.zipIdx seen).flatMap
        (numberedItemFailures subject place most objections kind)) := by
  induction items generalizing seen with
  | nil => exact .accepted
  | cons child rest ih =>
    have hbound := tooMany_finds subject place most seen
    rw [List.zipIdx_cons, List.flatMap_cons, numberedItemFailures, List.append_assoc]
    exact hbound.both ((hvisit _ _).both (ih (seen + 1)))

/-- The walk of a list finds what is wrong with the items, and that there are too few. -/
theorem visitItems_finds {visit : Visit} {objections : Objections} (least : Nat)
    (most : Option Nat) (kind : ContainerKind)
    (hvisit : ∀ v place, (visit v place).Finds (objections v place)) :
    (visitItems .all subject place least most visit kind).Finds
      (itemFailures subject place least most objections kind) := by
  refine .both (visitItemsFrom_finds subject place most kind hvisit 0 _) ?_
  by_cases hfew : (children subject).length < least
  · simp only [if_pos hfew]
    exact .failed _ _ _
  · simp only [if_neg hfew]
    exact .accepted

/-- The walk of the children finds what is wrong with them. -/
theorem visitChildren_finds {r : Ruleset}
    (hpart : ∀ q ∈ r.parts, ∀ v place, (q.visit p .all v place).Finds (q.failures p v place))
    (told : Option ContainerKind) :
    (visitChildren p .all subject place told (r.tableWalk p .all subject place)
      (r.itemsWalk p .all subject place)).Finds
      (childFailures p subject place told
        (r.tableElements.map fun t =>
          tableFailures subject place t.membership t.elements
            fun key => (Association.lookup key t.elements).map fun q => q.failures p)
        (r.listItems.map fun l =>
          itemFailures subject place l.minOccur l.maxOccur (l.itemRules.failures p))) := by
  have htable {t} (ht : r.tableElements = some t) (kind : ContainerKind) :=
    visitTable_finds subject place kind
      fun e (he : e ∈ t.elements) => hpart e.2 (Ruleset.mem_parts_of_element ht he)
  have hitems {l} (hl : r.listItems = some l) (kind : ContainerKind) :=
    visitItems_finds subject place l.minOccur l.maxOccur kind
      (hpart l.itemRules (Ruleset.mem_parts_of_items hl))
  unfold visitChildren childFailures Ruleset.tableWalk Ruleset.itemsWalk
  cases told <|> p.containerKind subject with
  | none =>
    cases r.tableElements <;> cases r.listItems <;> first
      | exact .accepted
      | exact .failed _ _ _
  | some kind =>
    cases ht : r.tableElements with
    | none =>
      cases hl : r.listItems with
      | none => exact .accepted
      | some l => exact hitems hl kind
    | some t =>
      cases hl : r.listItems with
      | none => exact htable ht kind
      | some l => exact (htable ht kind).orElse (hitems hl kind)

end Steps

/-- The walk of a ruleset finds what is wrong with the subject. -/
theorem Ruleset.visit_finds (p : Provider) (r : Ruleset) (subject : Value) (place : Location) :
    (r.visit p .all subject place).Finds (r.failures p subject place) := by
  induction r generalizing subject place with
  | ruleset r ih =>
    have hchildren := visitChildren_finds subject place ih
    rw [r.visit_eq p .all subject place, r.failures_eq p subject place]
    by_cases hdeep : maxDepth < place.depth
    · rw [visitNode_of_deep hdeep]
      exact .aborted _
    cases hmain : p.mainVerdict r subject with
    | error e =>
      rw [visitNode_of_error hdeep hmain]
      exact .aborted _
    | ok verdict =>
      simp only [nodeFailures, Provider.mainVerdict_eq hmain]
      cases verdict with
      | settled =>
        rw [visitNode_of_settled hdeep hmain]
        exact .accepted
      | passed told =>
        rw [visitNode_of_passed hdeep hmain]
        exact hchildren told
      | failed shortfall =>
        rw [visitNode_of_failed hdeep hmain]
        cases rescuedByValue p subject r.alternativeEnum with
        | true => exact .accepted
        | false =>
          simp only [Bool.false_eq_true, if_false]
          unfold alternativeWalk
          cases halternative : r.alternativeRuleSet with
          | none => exact .failed _ _ _
          | some a =>
            have ha := ih a (mem_parts_of_alternative halternative) subject place
            refine Walk.Finds.branch ha ?_ (.failed _ _ _)
            cases subject.isNull with
            | true => exact .accepted
            | false => exact hchildren none

/-- Where a challenge that records every failure comes to a verdict, its record is the list of all that
is wrong with the subject, and the subject passes if that is nothing. -/
theorem Ruleset.challenge_record_eq_failures (p : Provider) (r : Ruleset) (subject : Value)
    (keyPath : String) (verdict : Bool)
    (h : (r.challenge p .all subject keyPath).result = .ok verdict) :
    (r.challenge p .all subject keyPath).record = r.failures p subject ⟨0, keyPath⟩ ∧
      (verdict = true ↔ r.failures p subject ⟨0, keyPath⟩ = []) := by
  obtain ⟨e, heffect, hfinds⟩ := r.visit_finds p subject ⟨0, keyPath⟩
  rw [challenge_of_hasEffect heffect] at h ⊢
  exact hfinds verdict h

/-- A list of a text and two integers is neither a map with an integer nor a list of two texts. Each
key of it is one too many for the map, in which another one is missing; the second and the third item
are no texts, and the third is one too many for the list. -/
theorem Ruleset.pairOrTexts_failures :
    let subject := Value.array [.string "x", .number (.int 1), .number (.int 2)]
    let challenged := pairOrTexts.challenge Provider.standard .all subject "root"
    challenged.result = .ok false ∧
    challenged.record = pairOrTexts.failures Provider.standard subject ⟨0, "root"⟩ ∧
    challenged.record.map (fun f => (f.place.depth, f.place.keyPath)) =
      [(0, "root"), (0, "root"), (0, "root"), (0, "root"), (1, "root[1]"), (0, "root"),
        (1, "root[2]")] := by
  intro subject challenged
  have hfails : challenged.result = .ok false := rfl
  obtain ⟨hrecord, _⟩ := challenge_record_eq_failures Provider.standard _ subject _ false hfails
  exact ⟨hfails, hrecord, rfl⟩

end Rulebook
