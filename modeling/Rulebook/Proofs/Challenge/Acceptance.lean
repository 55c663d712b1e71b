import Mathlib.Tactic.ByContra
import Rulebook.Challenge.Challenger
import Rulebook.Proofs.Challenge.MainRules
import Rulebook.Proofs.Challenge.Visit

/-!
# Challenges and meanings

Where a challenge comes to a verdict, the verdict is the meaning of the ruleset. The main rules of a
ruleset decide which case of its meaning a subject is in; the steps of the walk then decide
conjunctions and disjunctions of what the walks in them decide.
-/

namespace Rulebook

open Json (Value)

/-! ## Walks that decide -/

/-- A walk decides a statement if each verdict that it comes to is the truth of it. -/
def Walk.Decides (w : Walk Bool) (P : Prop) : Prop :=
  ∃ e, w.HasEffect e ∧ ∀ verdict, e.result = .ok verdict → (verdict = true ↔ P)

namespace Walk.Decides

variable {mode : RecordMode} {a b c : Walk Bool} {A B C : Prop}

/-- A walk decides every equivalent statement. -/
theorem congr (ha : Decides a A) (h : A ↔ B) : Decides a B := by
  obtain ⟨e, heffect, hdecides⟩ := ha
  exact ⟨e, heffect, fun verdict hresult => (hdecides verdict hresult).trans h⟩

/-- A positive verdict decides what is true. -/
theorem accepted (h : A) : Decides (pure true) A :=
  ⟨_, .accepted, fun verdict hresult => by simpa [← Except.ok.inj hresult] using h⟩

/-- A walk without a verdict decides anything. -/
theorem aborted (e : ChallengeError) : Decides (throw e) A :=
  ⟨_, .aborted e, fun _ hresult => by cases hresult⟩

/-- A failure decides what is false. -/
theorem failed (place : Location) (subject : Value) (kind : FailureKind) (h : ¬A) :
    Decides (.fail mode place subject kind) A :=
  ⟨_, .failed mode place subject kind, fun verdict hresult => by
    simpa [← Except.ok.inj hresult] using h⟩

/-- Two walks that both have to pass decide a conjunction. -/
theorem both (ha : Decides a A) (hb : Decides b B) : Decides (.both mode a b) (A ∧ B) := by
  obtain ⟨ea, hea, hda⟩ := ha
  obtain ⟨eb, heb, hdb⟩ := hb
  refine ⟨_, hea.both heb, fun verdict hresult => ?_⟩
  cases hmode : mode.goesOn with
  | true =>
    obtain ⟨x, y, hx, hy, rfl⟩ := (Effect.result_both_of_goesOn hmode).mp hresult
    rw [Bool.and_eq_true, hda x hx, hdb y hy]
  | false =>
    rw [Effect.result_both_of_stops hmode] at hresult
    cases hx : ea.result with
    | error e =>
      rw [hx] at hresult
      cases hresult
    | ok x =>
      have hA := hda x hx
      rw [hx] at hresult
      cases x with
      | true => simpa [← hA] using hdb verdict hresult
      | false => simp [← Except.ok.inj hresult, ← hA]

/-- A walk with another one that stands in for it decides a disjunction. -/
theorem orElse (ha : Decides a A) (hb : Decides b B) : Decides (a.orElse b) (A ∨ B) := by
  obtain ⟨ea, hea, hda⟩ := ha
  obtain ⟨eb, heb, hdb⟩ := hb
  refine ⟨_, hea.orElse heb, fun verdict hresult => ?_⟩
  rw [Effect.result_orElse] at hresult
  cases hx : ea.result with
  | error e =>
    rw [hx] at hresult
    cases hresult
  | ok x =>
    have hA := hda x hx
    rw [hx] at hresult
    cases x with
    | true => simp [← Except.ok.inj hresult, ← hA]
    | false => simpa [← hA] using hdb verdict hresult

/-- A fallback with what follows it decides by cases. -/
theorem branch (ha : Decides a A) (hb : Decides b B) (hc : Decides c C) :
    Decides (do if ← a.unrecorded then b else c) (A ∧ B ∨ ¬A ∧ C) := by
  obtain ⟨ea, hea, hda⟩ := ha
  obtain ⟨eb, heb, hdb⟩ := hb
  obtain ⟨ec, hec, hdc⟩ := hc
  refine ⟨_, hea.branch heb hec, fun verdict hresult => ?_⟩
  rw [Effect.result_branch] at hresult
  cases hx : ea.result with
  | error e =>
    rw [hx] at hresult
    cases hresult
  | ok x =>
    have hA := hda x hx
    rw [hx] at hresult
    cases x with
    | true => simpa [← hA] using hdb verdict hresult
    | false => simpa [← hA] using hdc verdict hresult

/-- Steps over a list decide that all of it has a property. -/
theorem every {α : Type} {step : α → Walk Bool} {Holds : α → Prop} {list : List α}
    (hstep : ∀ a ∈ list, Decides (step a) (Holds a)) :
    Decides (.every mode step list) (∀ a ∈ list, Holds a) := by
  induction list with
  | nil => exact accepted (by simp)
  | cons a rest ih =>
    have hrest := ih fun b hb => hstep b (List.mem_cons_of_mem a hb)
    exact ((hstep a List.mem_cons_self).both hrest).congr List.forall_mem_cons.symm

end Walk.Decides

/-! ## The walk -/

section Steps

variable {p : Provider} (mode : RecordMode) (subject : Value) (place : Location)

/-- A child at a table decides whether the table accepts it. -/
theorem visitMember_decides {t : TableElements Ruleset} (kind : ContainerKind)
    (hchild : ∀ e ∈ t.elements, ∀ v place, (e.2.visit p mode v place).Decides (e.2.Accepts p v))
    (child : String × Value) :
    (visitMember mode subject place kind t.membership
      (fun key => (Association.lookup key t.elements).map fun q => q.visit p mode)
      child).Decides
      (match (Association.lookup child.1 t.elements).map fun q => q.Accepts p with
      | some accepts => accepts child.2
      | none => t.membership.admits child.1 = true) := by
  unfold visitMember
  cases hlookup : Association.lookup child.1 t.elements with
  | some q =>
    simp only [hlookup, Option.map_some]
    exact hchild _ (Association.mem_of_lookup hlookup) _ _
  | none =>
    simp only [hlookup, Option.map_none]
    cases t.membership.admits child.1 with
    | true => exact .accepted rfl
    | false => exact .failed _ _ _ Bool.false_ne_true

/-- The keys that are missing decide whether none is missing that must not be. -/
theorem missingKeys_decide (elements : List (String × Ruleset)) :
    (Walk.every mode (fun key => .fail mode place subject (.missingKey key))
      (missingKeys subject elements)).Decides
      (∀ e ∈ elements, e.2.optional = true ∨ e.1 ∈ Association.keys (children subject)) := by
  have hnone : (∀ key ∈ missingKeys subject elements, False) ↔
      ∀ e ∈ elements, e.2.optional = true ∨ e.1 ∈ Association.keys (children subject) := by
    simp only [missingKeys, List.mem_map, List.mem_filter]
    constructor
    · intro h e he
      by_contra hneither
      have hoptional : e.2.optional = false := by simpa using fun h => hneither (Or.inl h)
      have hmissing : e.1 ∉ Association.keys (children subject) := fun h => hneither (Or.inr h)
      exact h e.1 ⟨e, ⟨he, by simp [hoptional, hmissing]⟩, rfl⟩
    · rintro h key ⟨e, ⟨he, hmissing⟩, rfl⟩
      rcases h e he with hoptional | hpresent
      · simp [hoptional] at hmissing
      · simp [hpresent] at hmissing
  refine Walk.Decides.congr (Walk.Decides.every fun key _ => ?_) hnone
  exact .failed _ _ _ not_false

/-- The walk of a table decides whether the table accepts the children. -/
theorem visitTable_decides {t : TableElements Ruleset} (kind : ContainerKind)
    (hchild : ∀ e ∈ t.elements, ∀ v place, (e.2.visit p mode v place).Decides (e.2.Accepts p v)) :
    (visitTable mode subject place t.membership t.elements
      (fun key => (Association.lookup key t.elements).map fun q => q.visit p mode) kind).Decides
      (TableAccepts subject t.membership t.elements
        fun key => (Association.lookup key t.elements).map fun q => q.Accepts p) :=
  .both (.every fun child _ => visitMember_decides mode subject place kind hchild child)
    (missingKeys_decide mode subject place _)

/-- The bound on the number of items decides whether so many in front leave room for another. -/
theorem tooMany_decides (most : Option Nat) (seen : Nat) :
    Walk.Decides
      (match most with
        | some most =>
          if seen = most then .fail mode place subject (.tooMany most) else pure true
        | none => pure true)
      (∀ bound, most = some bound → seen ≠ bound) := by
  cases most with
  | none => exact .accepted (by simp)
  | some most =>
    by_cases hseen : seen = most
    · simp only [if_pos hseen]
      exact .failed _ _ _ fun h => h most rfl hseen
    · simp only [if_neg hseen]
      exact .accepted fun bound h => by rwa [← Option.some.inj h]

/-- The walk of some items decides whether each is accepted and their number is not above the bound,
unless it was above it before. -/
theorem visitItemsFrom_decides {visit : Visit} {accepts : Value → Prop} (most : Option Nat)
    (kind : ContainerKind) (hvisit : ∀ v place, (visit v place).Decides (accepts v))
    (seen : Nat) (items : List (String × Value)) :
    (visitItemsFrom mode subject place most visit kind seen items).Decides
      ((∀ child ∈ items, accepts child.2) ∧
        ∀ bound, most = some bound → seen ≤ bound → seen + items.length ≤ bound) := by
  induction items generalizing seen with
  | nil => exact .accepted ⟨by simp, fun bound _ h => h⟩
  | cons child rest ih =>
    have hbound := tooMany_decides mode subject place most seen
    refine (hbound.both ((hvisit _ _).both (ih (seen + 1)))).congr ?_
    rw [List.forall_mem_cons, List.length_cons]
    constructor
    · rintro ⟨hne, hfirst, hrest, hlength⟩
      refine ⟨⟨hfirst, hrest⟩, fun bound hmost hle => ?_⟩
      have hlt := hne bound hmost
      have hnext := hlength bound hmost (by omega)
      omega
    · rintro ⟨⟨hfirst, hrest⟩, hlength⟩
      refine ⟨fun bound hmost heq => ?_, hfirst, hrest, fun bound hmost hle => ?_⟩
      · have hall := hlength bound hmost (by omega)
        omega
      · have hall := hlength bound hmost (by omega)
        omega

/-- The walk of a list decides whether the list accepts the items. -/
theorem visitItems_decides {visit : Visit} {accepts : Value → Prop} (least : Nat)
    (most : Option Nat) (kind : ContainerKind)
    (hvisit : ∀ v place, (visit v place).Decides (accepts v)) :
    (visitItems mode subject place least most visit kind).Decides
      (ItemsAccept subject least most accepts) := by
  have hleast : Walk.Decides
      (if (children subject).length < least then
        .fail mode place subject (.tooFew least (children subject).length)
      else pure true)
      (least ≤ (children subject).length) := by
    by_cases hfew : (children subject).length < least
    · rw [if_pos hfew]
      exact .failed _ _ _ (by omega)
    · rw [if_neg hfew]
      exact .accepted (by omega)
  have hitems := visitItemsFrom_decides mode subject place most kind hvisit 0 (children subject)
  refine (hitems.both hleast).congr ?_
  simp only [ItemsAccept, Nat.zero_le, Nat.zero_add, true_implies]
  constructor
  · rintro ⟨⟨hall, hmost⟩, hleast⟩
    exact ⟨hall, hleast, hmost⟩
  · rintro ⟨hall, hleast, hmost⟩
    exact ⟨⟨hall, hmost⟩, hleast⟩

/-- The walk of the children decides whether what is declared for them accepts them. -/
theorem visitChildren_decides (hp : p.KnowsContainers) {r : Ruleset}
    (hpart : ∀ q ∈ r.parts, ∀ v place, (q.visit p mode v place).Decides (q.Accepts p v))
    {told : Option ContainerKind} (htold : told.isSome = true → subject.isContainer = true) :
    (visitChildren p mode subject place told (r.tableWalk p mode subject place)
      (r.itemsWalk p mode subject place)).Decides
      (r.AcceptsChildren subject (r.AcceptsTable p subject) (r.AcceptsItems p subject)) := by
  have hkind : (told <|> p.containerKind subject).isSome = subject.isContainer := by
    cases told with
    | none => exact hp.kind subject
    | some kind => exact (htold rfl).symm
  have htable {t} (ht : r.tableElements = some t) (kind : ContainerKind) :=
    visitTable_decides mode subject place kind
      fun e (he : e ∈ t.elements) => hpart e.2 (Ruleset.mem_parts_of_element ht he)
  have hitems {l} (hl : r.listItems = some l) (kind : ContainerKind) :=
    visitItems_decides mode subject place l.minOccur l.maxOccur kind
      (hpart l.itemRules (Ruleset.mem_parts_of_items hl))
  unfold visitChildren Ruleset.tableWalk Ruleset.itemsWalk Ruleset.AcceptsChildren
    Ruleset.hasChildren Ruleset.AcceptsTable Ruleset.AcceptsItems
  cases hseen : (told <|> p.containerKind subject) with
  | none =>
    rw [hseen] at hkind
    cases r.tableElements <;> cases r.listItems <;> first
      | exact .accepted (Or.inl rfl)
      | exact .failed _ _ _ (by simp [← hkind])
  | some kind =>
    rw [hseen] at hkind
    cases ht : r.tableElements with
    | none =>
      cases hl : r.listItems with
      | none => exact .accepted (Or.inl rfl)
      | some l => exact (hitems hl kind).congr (by simp [← hkind])
    | some t =>
      cases hl : r.listItems with
      | none => exact (htable ht kind).congr (by simp [← hkind])
      | some l => exact ((htable ht kind).orElse (hitems hl kind)).congr (by simp [← hkind])

/-- A subject that fails the main rules and is not rescued by a value passes if the rules of a
fallback accept it and what follows lets it pass. -/
theorem rescuedByRules_decides {alternative : Option (Walk Bool)} {next : Walk Bool} {A B : Prop}
    (halternative : ∀ a, alternative = some a → a.Decides A) (hnone : alternative = none → ¬A)
    (hnext : next.Decides B) (kind : FailureKind) :
    Walk.Decides (do
      if ← rescuedByRules alternative then next else .fail mode place subject kind) (A ∧ B) := by
  cases alternative with
  | none => exact .failed _ _ _ fun h => hnone rfl h.1
  | some a =>
    refine Walk.Decides.congr (.branch (halternative a rfl) hnext (.failed _ _ _ not_false)) ?_
    rw [and_false, or_false]

end Steps

/-- The walk of a ruleset decides whether the ruleset accepts the subject. -/
theorem Ruleset.visit_decides {p : Provider} (hp : p.KnowsContainers) (mode : RecordMode)
    (r : Ruleset) (subject : Value) (place : Location) :
    (r.visit p mode subject place).Decides (r.Accepts p subject) := by
  induction r generalizing subject place with
  | ruleset r ih =>
    rw [r.visit_eq p mode subject place]
    refine Walk.Decides.congr ?_ (r.accepts_iff p subject).symm
    by_cases hdeep : maxDepth < place.depth
    · rw [visitNode_of_deep hdeep]
      exact .aborted _
    cases hmain : p.mainVerdict r subject with
    | error e =>
      rw [visitNode_of_error hdeep hmain]
      exact .aborted _
    | ok verdict =>
      have hfits := Provider.mainVerdict_fits hp hmain
      cases verdict with
      | settled =>
        rw [visitNode_of_settled hdeep hmain]
        exact .accepted hfits.acceptsNode_of_settled
      | passed told =>
        rw [visitNode_of_passed hdeep hmain]
        refine Walk.Decides.congr ?_ hfits.acceptsNode_iff_of_passed.symm
        exact visitChildren_decides mode subject place hp ih hfits.2.2.2
      | failed shortfall =>
        rw [visitNode_of_failed hdeep hmain]
        refine Walk.Decides.congr ?_ hfits.acceptsNode_iff_of_failed.symm
        rw [← rescuedByValue_iff]
        cases rescuedByValue p subject r.alternativeEnum with
        | true => exact .accepted (Or.inl rfl)
        | false =>
          simp only [Bool.false_eq_true, false_or, if_false]
          refine rescuedByRules_decides mode subject place ?_ ?_ ?_ _
          · intro w hw
            obtain ⟨a, ha, rfl⟩ := Option.map_eq_some_iff.mp hw
            exact (ih a (mem_parts_of_alternative ha) subject place).congr
              (by simp [AcceptsAlternative, ha])
          · intro hnone
            simp [AcceptsAlternative, Option.map_eq_none_iff.mp hnone]
          · cases subject.isNull with
            | true => exact .accepted (Or.inl rfl)
            | false =>
              have htold : (none : Option ContainerKind).isSome = true →
                  subject.isContainer = true := by
                simp
              have hchildren := visitChildren_decides mode subject place hp ih htold
              exact hchildren.congr (by simp)

/-- Under the standard rules, the verdict of a challenge tells whether the ruleset accepts the
subject. -/
theorem Ruleset.challenge_iff_accepts [PatternEngine] (mode : RecordMode) (r : Ruleset)
    (subject : Value) (keyPath : String) (verdict : Bool)
    (h : (r.challenge Provider.standard mode subject keyPath).result = .ok verdict) :
    verdict = true ↔ r.Accepts Provider.standard subject := by
  obtain ⟨e, heffect, hdecides⟩ :=
    r.visit_decides Provider.standard_knowsContainers mode subject ⟨0, keyPath⟩
  have hrun := heffect []
  simp only [challenge, hrun] at h
  exact hdecides verdict h

/-- A ruleset with one type-checking rule. -/
def Ruleset.ofType (name : String) : Ruleset :=
  ⟨[⟨name, .flag, .typeCheck, []⟩], [], false, false, none, none, none, none, none⟩

/-- A map with an integer under one key and no others, or at most two texts. -/
def Ruleset.pairOrTexts : Ruleset :=
  { ofType "loopable" with
    tableElements := some ⟨[("a", ofType "integer")], .exclusive⟩
    listItems := some ⟨0, some 2, ofType "string"⟩ }

/-- A list of one text is accepted by the second alternative, a list of an integer by none. -/
theorem Ruleset.pairOrTexts_accepts :
    (pairOrTexts.challenge Provider.standard .all (.array [.string "x"]) "root").result = .ok true ∧
      pairOrTexts.Accepts Provider.standard (.array [.string "x"]) ∧
      ¬pairOrTexts.Accepts Provider.standard (.array [.number (.int 1)]) := by
  have haccepted := challenge_iff_accepts .all pairOrTexts (.array [.string "x"]) "root" true rfl
  have hrefused :=
    challenge_iff_accepts .all pairOrTexts (.array [.number (.int 1)]) "root" false rfl
  exact ⟨rfl, haccepted.mp rfl, fun h => by cases hrefused.mpr h⟩

end Rulebook
