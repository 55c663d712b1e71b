import Rulebook.Challenge.Challenger
import Rulebook.Proofs.Challenge.Effect
import Rulebook.Proofs.Ruleset.Parts

/-!
# The walk as one recursion

The walk over a subject in terms of the walks of the parts of a ruleset, and the induction that it
gives: what the steps of a walk keep, in every record mode, holds of the walk of every ruleset.
-/

namespace Rulebook

open Json (Value)

/-! ## Equations -/

/-- What is declared for a key is the walk of the ruleset that is declared for it. -/
theorem Ruleset.visitForIn_eq (b : Build) (p : Provider) (mode : RecordMode)
    (elements : List (String × Ruleset)) (key : String) :
    Ruleset.visitForIn b p mode elements key =
      (Association.lookup key elements).map fun q => q.visitIn b p mode := by
  induction elements with
  | nil => simp [Ruleset.visitForIn, Association.lookup]
  | cons e rest ih =>
    obtain ⟨k, q⟩ := e
    by_cases hk : k = key
    · simp [Ruleset.visitForIn, Association.lookup, hk]
    · simp [Ruleset.visitForIn, Association.lookup, hk, ih]

namespace Ruleset

variable (b : Build) (p : Provider) (mode : RecordMode) (r : Ruleset) (subject : Value)
  (place : Location)

/-- The walk of a ruleset in a build, from the walks of its parts. -/
theorem visitIn_eq :
    r.visitIn b p mode subject place =
      visitNode p mode subject place r
        (r.alternativeRuleSet.map fun a => a.visitIn b p mode subject place)
        (r.tableElements.map fun t => visitTable mode subject place t.membership t.elements
          fun key => (Association.lookup key t.elements).map fun q => q.visitIn b p mode)
        (r.listItems.map fun l =>
          visitItemsIn mode subject place b l.minOccur l.maxOccur (l.itemRules.visitIn b p mode)) := by
  obtain ⟨types, patterns, optional, nullable, emptiness, enum, alternative, table, items⟩ := r
  rw [Ruleset.visitIn.eq_def]
  cases alternative <;> cases table <;> cases items <;> simp [funext (visitForIn_eq b p mode _)]

/-- The walk of the fallback of a ruleset. -/
def alternativeWalk : Option (Walk Bool) :=
  r.alternativeRuleSet.map fun a => a.visit p mode subject place

/-- The walk of the table of a ruleset. -/
def tableWalk : Option (ContainerKind → Walk Bool) :=
  r.tableElements.map fun t =>
    visitTable mode subject place t.membership t.elements
      fun key => (Association.lookup key t.elements).map fun q => q.visit p mode

/-- The walk of the list of a ruleset. -/
def itemsWalk : Option (ContainerKind → Walk Bool) :=
  r.listItems.map fun l =>
    visitItems mode subject place l.minOccur l.maxOccur (l.itemRules.visit p mode)

/-- The walk of a ruleset, from the walks of its parts. -/
theorem visit_eq :
    r.visit p mode subject place =
      visitNode p mode subject place r (r.alternativeWalk p mode subject place)
        (r.tableWalk p mode subject place) (r.itemsWalk p mode subject place) :=
  r.visitIn_eq .wrapping p mode subject place

end Ruleset

section Node

variable {p : Provider} {mode : RecordMode} {subject : Value} {place : Location} {r : Ruleset}
  {alternative : Option (Walk Bool)} {table items : Option (ContainerKind → Walk Bool)}

/-- A subject below the deepest level is not looked at. -/
theorem visitNode_of_deep (hdeep : maxDepth < place.depth) :
    visitNode p mode subject place r alternative table items =
      throw (.recursionLimit place) := by
  rw [visitNode, if_pos hdeep]

variable (hdepth : ¬maxDepth < place.depth)

include hdepth

/-- An error of a main rule ends the walk. -/
theorem visitNode_of_error {e : ProviderError} (h : p.mainVerdict r subject = .error e) :
    visitNode p mode subject place r alternative table items = throw (.provider e) := by
  rw [visitNode, if_neg hdepth, h]
  rfl

/-- A subject that the main rules let pass with its children passes. -/
theorem visitNode_of_settled (h : p.mainVerdict r subject = .ok .settled) :
    visitNode p mode subject place r alternative table items = pure true := by
  rw [visitNode, if_neg hdepth, h]
  rfl

/-- Behind the main rules a subject meets the rules for children. -/
theorem visitNode_of_passed {told : Option ContainerKind}
    (h : p.mainVerdict r subject = .ok (.passed told)) :
    visitNode p mode subject place r alternative table items =
      visitChildren p mode subject place told table items := by
  rw [visitNode, if_neg hdepth, h]
  rfl

/-- A subject that fails the main rules may be rescued by a value or by other rules. -/
theorem visitNode_of_failed {shortfall : Shortfall}
    (h : p.mainVerdict r subject = .ok (.failed shortfall)) :
    visitNode p mode subject place r alternative table items =
      if rescuedByValue p subject r.alternativeEnum then pure true
      else (do
        if ← rescuedByRules alternative then
          if subject.isNull then pure true
          else visitChildren p mode subject place none table items
        else .fail mode place subject (shortfall.failure r.fallbacks)) := by
  rw [visitNode, if_neg hdepth, h]
  rfl

end Node

/-! ## Induction -/

/-- A property of effects, one for every record mode, that the steps of a walk keep, apart from the
one that lets a list stand in for a table. -/
structure BasicInvariant (P : (RecordMode → Effect) → Prop) : Prop where
  accepted : P fun _ => .accepted
  aborted : ∀ e, P fun _ => .aborted e
  failed : ∀ f, P fun mode => .failed mode f
  both : ∀ {a b}, P a → P b → P fun mode => .both mode (a mode) (b mode)
  branch : ∀ {a b c}, P a → P b → P c → P fun mode => .branch (a mode) (b mode) (c mode)

/-- A property of effects that the step keeps which lets a list stand in for a table. -/
def KeptByOrElse (P : (RecordMode → Effect) → Prop) : Prop :=
  ∀ {a b}, P a → P b → P fun mode => (a mode).orElse (b mode)

/-- A property of effects, one for every record mode, that the steps of a walk keep. -/
structure StepInvariant (P : (RecordMode → Effect) → Prop) : Prop extends BasicInvariant P where
  orElse : KeptByOrElse P

/-- A walk, one for every record mode, has effects with a property. -/
def HasEffects (P : (RecordMode → Effect) → Prop) (walks : RecordMode → Walk Bool) : Prop :=
  ∃ effects, (∀ mode, (walks mode).HasEffect (effects mode)) ∧ P effects

/-- A walk with another one that stands in for it keeps what both keep. -/
theorem KeptByOrElse.hasEffects {P : (RecordMode → Effect) → Prop} (h : KeptByOrElse P)
    {a b : RecordMode → Walk Bool} (ha : HasEffects P a) (hb : HasEffects P b) :
    HasEffects P fun mode => (a mode).orElse (b mode) := by
  obtain ⟨ea, hea, hpa⟩ := ha
  obtain ⟨eb, heb, hpb⟩ := hb
  exact ⟨_, fun mode => (hea mode).orElse (heb mode), h hpa hpb⟩

/-- A ruleset declares both a table and a list, which is there to stand in for the table. -/
def Ruleset.DeclaresBoth (r : Ruleset) : Prop :=
  r.tableElements.isSome = true ∧ r.listItems.isSome = true

namespace BasicInvariant

variable {P : (RecordMode → Effect) → Prop} (hP : BasicInvariant P)

include hP

/-- A walk that accepts keeps what accepting keeps. -/
theorem hasEffects_accepted : HasEffects P fun _ => pure true :=
  ⟨_, fun _ => .accepted, hP.accepted⟩

/-- A walk that is aborted keeps what an error keeps. -/
theorem hasEffects_aborted (e : ChallengeError) : HasEffects P fun _ => throw e :=
  ⟨_, fun _ => .aborted e, hP.aborted e⟩

/-- A walk that fails keeps what a failure keeps. -/
theorem hasEffects_failed (place : Location) (subject : Value) (kind : FailureKind) :
    HasEffects P fun mode => .fail mode place subject kind :=
  ⟨_, fun mode => .failed mode place subject kind, hP.failed _⟩

/-- Two walks that both have to pass keep what each of them keeps. -/
theorem hasEffects_both {a b : RecordMode → Walk Bool} (ha : HasEffects P a)
    (hb : HasEffects P b) : HasEffects P fun mode => .both mode (a mode) (b mode) := by
  obtain ⟨ea, hea, hpa⟩ := ha
  obtain ⟨eb, heb, hpb⟩ := hb
  exact ⟨_, fun mode => (hea mode).both (heb mode), hP.both hpa hpb⟩

/-- A fallback with what follows it keeps what the three walks keep. -/
theorem hasEffects_branch {a b c : RecordMode → Walk Bool} (ha : HasEffects P a)
    (hb : HasEffects P b) (hc : HasEffects P c) :
    HasEffects P fun mode => (do if ← (a mode).unrecorded then b mode else c mode) := by
  obtain ⟨ea, hea, hpa⟩ := ha
  obtain ⟨eb, heb, hpb⟩ := hb
  obtain ⟨ec, hec, hpc⟩ := hc
  exact ⟨_, fun mode => (hea mode).branch (heb mode) (hec mode), hP.branch hpa hpb hpc⟩

/-- Steps over a list keep what each of them keeps. -/
theorem hasEffects_every {α : Type} {step : RecordMode → α → Walk Bool} {list : List α}
    (hstep : ∀ a ∈ list, HasEffects P fun mode => step mode a) :
    HasEffects P fun mode => .every mode (step mode) list := by
  induction list with
  | nil => exact hP.hasEffects_accepted
  | cons a rest ih =>
    have hrest := ih fun b hb => hstep b (List.mem_cons_of_mem a hb)
    exact hP.hasEffects_both (hstep a List.mem_cons_self) hrest

/-- A child at a table keeps what the walks of the declared rulesets keep. -/
theorem hasEffects_visitMember {p : Provider} {t : TableElements Ruleset}
    (hchild : ∀ e ∈ t.elements, ∀ v place, HasEffects P fun mode => e.2.visit p mode v place)
    (subject : Value) (place : Location) (kind : ContainerKind) (child : String × Value) :
    HasEffects P fun mode =>
      visitMember mode subject place kind t.membership
        (fun key => (Association.lookup key t.elements).map fun q => q.visit p mode) child := by
  unfold visitMember
  cases hlookup : Association.lookup child.1 t.elements with
  | some q =>
    simp only [hlookup, Option.map_some]
    exact hchild _ (Association.mem_of_lookup hlookup) _ _
  | none =>
    simp only [hlookup, Option.map_none]
    cases t.membership.admits child.1 with
    | true => exact hP.hasEffects_accepted
    | false => exact hP.hasEffects_failed _ _ _

/-- The walk of a table keeps what the walks of the declared rulesets keep. -/
theorem hasEffects_visitTable {p : Provider} {t : TableElements Ruleset}
    (hchild : ∀ e ∈ t.elements, ∀ v place, HasEffects P fun mode => e.2.visit p mode v place)
    (subject : Value) (place : Location) (kind : ContainerKind) :
    HasEffects P fun mode =>
      visitTable mode subject place t.membership t.elements
        (fun key => (Association.lookup key t.elements).map fun q => q.visit p mode) kind := by
  apply hP.hasEffects_both
  · exact hP.hasEffects_every fun child _ =>
      hP.hasEffects_visitMember hchild subject place kind child
  · exact hP.hasEffects_every fun _ _ => hP.hasEffects_failed _ _ _

/-- The walk of some items keeps what the walk of the declared ruleset keeps. -/
theorem hasEffects_visitItemsFrom {visit : RecordMode → Visit} {most : Option Nat}
    (hvisit : ∀ v place, HasEffects P fun mode => visit mode v place) (subject : Value)
    (place : Location) (kind : ContainerKind) (seen : Nat) (items : List (String × Value)) :
    HasEffects P fun mode =>
      visitItemsFrom mode subject place most (visit mode) kind seen items := by
  induction items generalizing seen with
  | nil => exact hP.hasEffects_accepted
  | cons child rest ih =>
    apply hP.hasEffects_both
    · cases most with
      | none => exact hP.hasEffects_accepted
      | some most =>
        by_cases hseen : seen = most
        · simp only [if_pos hseen]
          exact hP.hasEffects_failed _ _ _
        · simp only [if_neg hseen]
          exact hP.hasEffects_accepted
    · exact hP.hasEffects_both (hvisit _ _) (ih (seen + 1))

/-- The walk of a list keeps what the walk of the declared ruleset keeps. -/
theorem hasEffects_visitItems {visit : RecordMode → Visit} {least : Nat} {most : Option Nat}
    (hvisit : ∀ v place, HasEffects P fun mode => visit mode v place) (subject : Value)
    (place : Location) (kind : ContainerKind) :
    HasEffects P fun mode => visitItems mode subject place least most (visit mode) kind := by
  apply hP.hasEffects_both
  · exact hP.hasEffects_visitItemsFrom hvisit subject place kind 0 _
  · by_cases hleast : (children subject).length < least
    · simp only [if_pos hleast]
      exact hP.hasEffects_failed _ _ _
    · simp only [if_neg hleast]
      exact hP.hasEffects_accepted

/-- The walk of the children keeps what the walks of the table and of the list keep. -/
theorem hasEffects_visitChildren (p : Provider) (r : Ruleset) (subject : Value)
    (place : Location)
    (htable : ∀ t, r.tableElements = some t → ∀ e ∈ t.elements, ∀ v place,
      HasEffects P fun mode => e.2.visit p mode v place)
    (hitems : ∀ l, r.listItems = some l → ∀ v place,
      HasEffects P fun mode => l.itemRules.visit p mode v place)
    (horElse : r.DeclaresBoth → KeptByOrElse P)
    (told : Option ContainerKind) :
    HasEffects P fun mode =>
      visitChildren p mode subject place told (r.tableWalk p mode subject place)
        (r.itemsWalk p mode subject place) := by
  unfold visitChildren Ruleset.tableWalk Ruleset.itemsWalk
  cases told <|> p.containerKind subject with
  | none =>
    cases r.tableElements <;> cases r.listItems <;> first
      | exact hP.hasEffects_accepted
      | exact hP.hasEffects_failed _ _ _
  | some kind =>
    cases ht : r.tableElements with
    | none =>
      cases hl : r.listItems with
      | none => exact hP.hasEffects_accepted
      | some l => exact hP.hasEffects_visitItems (hitems l hl) _ _ kind
    | some t =>
      have hwalk := hP.hasEffects_visitTable (htable t ht) subject place kind
      cases hl : r.listItems with
      | none => exact hwalk
      | some l =>
        have hor : KeptByOrElse P := horElse (by simp [Ruleset.DeclaresBoth, ht, hl])
        exact hor.hasEffects hwalk (hP.hasEffects_visitItems (hitems l hl) _ _ kind)

/-- What the steps of a walk keep holds of the walk of a ruleset, if wherever the ruleset declares
both a table and a list it is also kept when the list stands in for the table. -/
theorem hasEffects_visit_of_everywhere (p : Provider) {r : Ruleset}
    (h : r.Everywhere fun q => q.DeclaresBoth → KeptByOrElse P) (subject : Value)
    (place : Location) : HasEffects P fun mode => r.visit p mode subject place := by
  induction h generalizing subject place with
  | @node r horElse _ ih =>
    have hchildren := hP.hasEffects_visitChildren p r subject place
      (fun t ht e he v place => ih e.2 (Ruleset.mem_parts_of_element ht he) v place)
      (fun l hl v place => ih l.itemRules (Ruleset.mem_parts_of_items hl) v place) horElse
    simp only [r.visit_eq p _ subject place]
    by_cases hdeep : maxDepth < place.depth
    · simp only [visitNode_of_deep hdeep]
      exact hP.hasEffects_aborted _
    cases hmain : p.mainVerdict r subject with
    | error e =>
      simp only [visitNode_of_error hdeep hmain]
      exact hP.hasEffects_aborted _
    | ok verdict =>
      cases verdict with
      | settled =>
        simp only [visitNode_of_settled hdeep hmain]
        exact hP.hasEffects_accepted
      | passed told =>
        simp only [visitNode_of_passed hdeep hmain]
        exact hchildren told
      | failed shortfall =>
        simp only [visitNode_of_failed hdeep hmain]
        cases rescuedByValue p subject r.alternativeEnum with
        | true => exact hP.hasEffects_accepted
        | false =>
          unfold Ruleset.alternativeWalk
          cases halternative : r.alternativeRuleSet with
          | none => exact hP.hasEffects_failed _ _ _
          | some a =>
            have ha := ih a (Ruleset.mem_parts_of_alternative halternative) subject place
            refine hP.hasEffects_branch ha ?_ (hP.hasEffects_failed _ _ _)
            cases subject.isNull with
            | true => exact hP.hasEffects_accepted
            | false => exact hchildren none

end BasicInvariant

/-- What all steps of a walk keep holds of the walk of every ruleset. -/
theorem StepInvariant.hasEffects_visit {P : (RecordMode → Effect) → Prop} (hP : StepInvariant P)
    (p : Provider) (r : Ruleset) (subject : Value) (place : Location) :
    HasEffects P fun mode => r.visit p mode subject place := by
  have horElse : r.Everywhere fun q => q.DeclaresBoth → KeptByOrElse P :=
    .of_forall (fun _ _ => @hP.orElse) r
  exact hP.hasEffects_visit_of_everywhere p horElse subject place

/-! ## Effects -/

/-- Nothing at all is asked of effects. -/
theorem StepInvariant.anything : StepInvariant fun _ => True where
  accepted := trivial
  aborted _ := trivial
  failed _ := trivial
  both _ _ := trivial
  branch _ _ _ := trivial
  orElse _ _ := trivial

namespace Ruleset

variable {p : Provider} {mode : RecordMode} {r : Ruleset} {subject : Value} {place : Location}
  {walk : ContainerKind → Walk Bool}

/-- Every walk has an effect. -/
theorem exists_hasEffect_visit (p : Provider) (mode : RecordMode) (r : Ruleset) (subject : Value)
    (place : Location) : ∃ e, (r.visit p mode subject place).HasEffect e := by
  obtain ⟨effects, heffects, _⟩ := StepInvariant.anything.hasEffects_visit p r subject place
  exact ⟨effects mode, heffects mode⟩

/-- Every walk of a table has an effect. -/
theorem exists_hasEffect_tableWalk (h : r.tableWalk p mode subject place = some walk)
    (kind : ContainerKind) : ∃ e, (walk kind).HasEffect e := by
  obtain ⟨t, _, rfl⟩ := Option.map_eq_some_iff.mp h
  obtain ⟨effects, heffects, _⟩ := StepInvariant.anything.toBasicInvariant.hasEffects_visitTable
    (fun e _ => StepInvariant.anything.hasEffects_visit p e.2) subject place kind
  exact ⟨effects mode, heffects mode⟩

/-- Every walk of a list has an effect. -/
theorem exists_hasEffect_itemsWalk (h : r.itemsWalk p mode subject place = some walk)
    (kind : ContainerKind) : ∃ e, (walk kind).HasEffect e := by
  obtain ⟨l, _, rfl⟩ := Option.map_eq_some_iff.mp h
  obtain ⟨effects, heffects, _⟩ := StepInvariant.anything.toBasicInvariant.hasEffects_visitItems
    (StepInvariant.anything.hasEffects_visit p l.itemRules) subject place kind
  exact ⟨effects mode, heffects mode⟩

end Ruleset

/-- A walk that fails for each of some missing keys comes to a verdict: it passes if there are none. -/
theorem exists_hasEffect_missing (mode : RecordMode) (subject : Value) (place : Location)
    (keys : List String) :
    ∃ e, (Walk.every mode (fun key => .fail mode place subject (.missingKey key)) keys).HasEffect e ∧
      e.result = .ok keys.isEmpty := by
  induction keys with
  | nil => exact ⟨_, .accepted, rfl⟩
  | cons key rest ih =>
    obtain ⟨e, he, hresult⟩ := ih
    have hfirst := Walk.HasEffect.failed mode place subject (.missingKey key)
    exact ⟨_, hfirst.both he, Effect.result_both_of_false rfl hresult⟩

/-- A challenge shows the effect of the walk from the top. -/
theorem Ruleset.challenge_of_hasEffect {p : Provider} {mode : RecordMode} {r : Ruleset}
    {subject : Value} {keyPath : String} {e : Effect}
    (h : (r.visit p mode subject ⟨0, keyPath⟩).HasEffect e) :
    r.challenge p mode subject keyPath = ⟨e.result, e.added⟩ := by
  rw [Ruleset.challenge, h, List.nil_append]

end Rulebook
