import Mathlib.Data.List.Forall2
import Rulebook.Proofs.Challenge.Visit

/-!
# Walks in step

Two walks go in step if their effects are related, for a relation that the steps of walks keep. Two
rulesets walk two subjects in step if their main rules answer alike and their fallbacks, tables and
lists go in step.
-/

namespace Rulebook

open Json (Value)

/-- A relation between effects that the steps of walks over children keep, in a mode. -/
structure ChildRelation (mode : RecordMode) (R : Effect → Effect → Prop) : Prop where
  accepted : R .accepted .accepted
  both : ∀ {a a' b b'}, R a a' → R b b' → R (.both mode a b) (.both mode a' b')
  orElse : ∀ {a a' b b'}, R a a' → R b b' → R (a.orElse b) (a'.orElse b')

/-- A relation between effects that all steps of walks in a mode keep, fallbacks included. -/
structure StepRelation (mode : RecordMode) (R : Effect → Effect → Prop) : Prop
    extends ChildRelation mode R where
  branch : ∀ {a a' b b' c c'}, R a a' → R b b' → R c c' → R (.branch a b c) (.branch a' b' c')

/-- A walk has one effect. -/
theorem Walk.HasEffect.unique {w : Walk Bool} {e e' : Effect} (h : w.HasEffect e)
    (h' : w.HasEffect e') : e = e' := by
  have heq : (e.result, [] ++ e.added) = (e'.result, [] ++ e'.added) := (h []).symm.trans (h' [])
  cases e
  cases e'
  simpa using heq

/-- Two walks have related effects. -/
def Walk.InStep (R : Effect → Effect → Prop) (w w' : Walk Bool) : Prop :=
  ∃ e e', w.HasEffect e ∧ w'.HasEffect e' ∧ R e e'

namespace Walk.InStep

variable {R S : Effect → Effect → Prop} {w w' : Walk Bool}

/-- Walks in step are in step for every relation that follows. -/
theorem imp (h : InStep R w w') (hRS : ∀ e e', R e e' → S e e') : InStep S w w' := by
  obtain ⟨e, e', he, he', hR⟩ := h
  exact ⟨e, e', he, he', hRS e e' hR⟩

/-- Walks in step with a third one, one after the other. -/
theorem trans {T : Effect → Effect → Prop} {w'' : Walk Bool} (h : InStep R w w')
    (h' : InStep S w' w'') (hT : ∀ {a b c}, R a b → S b c → T a c) : InStep T w w'' := by
  obtain ⟨a, b, ha, hb, hR⟩ := h
  obtain ⟨b', c, hb', hc, hS⟩ := h'
  obtain rfl := hb.unique hb'
  exact ⟨a, c, ha, hc, hT hR hS⟩

/-- Two walks that come to no verdict. -/
theorem aborted {e e' : ChallengeError} (h : R (.aborted e) (.aborted e')) :
    InStep R (throw e) (throw e') :=
  ⟨_, _, .aborted e, .aborted e', h⟩

/-- Two walks that fail. -/
theorem failed {mode : RecordMode} {place place' : Location} {subject subject' : Value}
    {kind kind' : FailureKind}
    (h : R (.failed mode ⟨place, kind, Preview.of subject⟩)
      (.failed mode ⟨place', kind', Preview.of subject'⟩)) :
    InStep R (.fail mode place subject kind) (.fail mode place' subject' kind') :=
  ⟨_, _, .failed mode place subject kind, .failed mode place' subject' kind', h⟩

end Walk.InStep

/-- Two fallbacks lead a subject on in step, if what follows them does so: a walk for subjects that are
rescued, which is none for null, and one for those that are not. -/
def Walk.LeadInStep (R : Effect → Effect → Prop) (subject : Value) (a a' : Walk Bool) : Prop :=
  ∀ ⦃b b' c c' : Walk Bool⦄, b.InStep R b' → c.InStep R c' →
    (subject.isNull = true → b' = pure true) →
    Walk.InStep R (do if ← a.unrecorded then b else c) (do if ← a'.unrecorded then b' else c')

/-- The effect of main rules that turn a subject down without a rescue. -/
def Ruleset.turnedDown (r : Ruleset) (mode : RecordMode) (subject : Value) (place : Location)
    (shortfall : Shortfall) : Effect :=
  .failed mode ⟨place, shortfall.failure r.fallbacks, Preview.of subject⟩

/-- What a subject may fail a table for, besides its children. -/
inductive FailureKind.OfTable (membership : Membership) : FailureKind → Prop
  | undeclaredKey (key : String) : OfTable membership (.undeclaredKey key membership.name)
  | missingKey (key : String) : OfTable membership (.missingKey key)

/-- What a subject may fail a list for, besides its items. -/
inductive FailureKind.OfItems : FailureKind → Prop
  | tooMany (most : Nat) : OfItems (.tooMany most)
  | tooFew (least seen : Nat) : OfItems (.tooFew least seen)

/-- The answers of main rules lead two walks the same way, where shortfalls have effects. -/
inductive AnswersInStep (R : Effect → Effect → Prop) (failed failed' : Shortfall → Effect) :
    Except ProviderError MainVerdict → Except ProviderError MainVerdict → Prop
  | error {e e' : ProviderError} (h : R (.aborted (.provider e)) (.aborted (.provider e'))) :
      AnswersInStep R failed failed' (.error e) (.error e')
  | settled : AnswersInStep R failed failed' (.ok .settled) (.ok .settled)
  | passed (told : Option ContainerKind) :
      AnswersInStep R failed failed' (.ok (.passed told)) (.ok (.passed told))
  | failed {s s' : Shortfall} (h : R (failed s) (failed' s')) :
      AnswersInStep R failed failed' (.ok (.failed s)) (.ok (.failed s'))

/-- One answer leads two walks the same way. -/
theorem AnswersInStep.of_eq {R : Effect → Effect → Prop} {failed failed' : Shortfall → Effect}
    {a a' : Except ProviderError MainVerdict} (h : a = a')
    (herror : ∀ e, a = .error e → R (.aborted (.provider e)) (.aborted (.provider e)))
    (hfailed : ∀ s, a = .ok (.failed s) → R (failed s) (failed' s)) :
    AnswersInStep R failed failed' a a' := by
  subst h
  cases a with
  | error e => exact .error (herror e rfl)
  | ok verdict =>
    cases verdict with
    | settled => exact .settled
    | passed told => exact .passed told
    | failed s => exact .failed (hfailed s rfl)

/-- What is made of one optional thing in two ways is related if it is so for the thing. -/
theorem rel_map {α β γ : Type} {R : β → γ → Prop} {f : α → β} {g : α → γ} {o : Option α}
    (h : ∀ a, o = some a → R (f a) (g a)) : Option.Rel R (o.map f) (o.map g) := by
  cases o with
  | none => exact .none
  | some a => exact .some (h a rfl)

/-- One optional thing is related to itself if the thing is. -/
theorem rel_self {α : Type} {R : α → α → Prop} {o : Option α} (h : ∀ a, o = some a → R a a) :
    Option.Rel R o o := by
  cases o with
  | none => exact .none
  | some a => exact .some (h a rfl)

/-- What is made of two optional things is related if the things are so for a relation that it follows
from. -/
theorem rel_map_map {α α' β β' : Type} {R : α → α' → Prop} {S : β → β' → Prop} {f : α → β}
    {g : α' → β'} {o : Option α} {o' : Option α'} (h : Option.Rel R o o')
    (hRS : ∀ a a', R a a' → S (f a) (g a')) : Option.Rel S (o.map f) (o'.map g) := by
  cases h with
  | none => exact .none
  | some h => exact .some (hRS _ _ h)

/-- What is related optionally is so for every relation that follows. -/
theorem rel_imp {α β : Type} {R S : α → β → Prop} {o : Option α} {o' : Option β}
    (h : Option.Rel R o o') (hRS : ∀ a b, R a b → S a b) : Option.Rel S o o' := by
  cases h with
  | none => exact .none
  | some h => exact .some (hRS _ _ h)

/-- What the main rules of a ruleset may tell the walk of the children of a subject: the subject is not
null, and nothing is told of its kind behind a fallback. -/
def Provider.MayTell (p : Provider) (r : Ruleset) (subject : Value) (told : Option ContainerKind) :
    Prop :=
  subject.isNull = false ∧ (told = none ∨ p.mainVerdict r subject = .ok (.passed told))

/-- Null does not come to the rules for children by way of the main rules. -/
theorem Provider.isNull_eq_false_of_passed {p : Provider} {r : Ruleset} {subject : Value}
    {told : Option ContainerKind} (h : p.mainVerdict r subject = .ok (.passed told)) :
    subject.isNull = false := by
  cases hnull : subject.isNull with
  | false => rfl
  | true => cases hnullable : r.nullable <;> simp [mainVerdict, hnull, hnullable] at h

namespace ChildRelation

variable {mode : RecordMode} {R : Effect → Effect → Prop} (hR : ChildRelation mode R)

include hR

/-- Two walks that accept. -/
theorem inStep_accepted : Walk.InStep R (pure true) (pure true) :=
  ⟨_, _, .accepted, .accepted, hR.accepted⟩

/-- Pairs of walks that both have to pass. -/
theorem inStep_both {a a' b b' : Walk Bool} (ha : a.InStep R a') (hb : b.InStep R b') :
    Walk.InStep R (.both mode a b) (.both mode a' b') := by
  obtain ⟨ea, ea', hea, hea', hra⟩ := ha
  obtain ⟨eb, eb', heb, heb', hrb⟩ := hb
  exact ⟨_, _, hea.both heb, hea'.both heb', hR.both hra hrb⟩

/-- Walks with others that stand in for them. -/
theorem inStep_orElse {a a' b b' : Walk Bool} (ha : a.InStep R a') (hb : b.InStep R b') :
    Walk.InStep R (a.orElse b) (a'.orElse b') := by
  obtain ⟨ea, ea', hea, hea', hra⟩ := ha
  obtain ⟨eb, eb', heb, heb', hrb⟩ := hb
  exact ⟨_, _, hea.orElse heb, hea'.orElse heb', hR.orElse hra hrb⟩

/-- Steps over two lists, item by item. -/
theorem inStep_every {α β : Type} {step : α → Walk Bool} {step' : β → Walk Bool} {as : List α}
    {bs : List β} (h : List.Forall₂ (fun a b => (step a).InStep R (step' b)) as bs) :
    Walk.InStep R (.every mode step as) (.every mode step' bs) := by
  induction h with
  | nil => exact hR.inStep_accepted
  | cons hstep _ ih => exact hR.inStep_both hstep ih

section Children

variable {p p' : Provider} {subject subject' : Value} {place place' : Location}

/-- Children of one key that meet tables of one membership. -/
theorem inStep_visitMember {kind kind' : ContainerKind} {membership : Membership}
    {declared declared' : String → Option Visit} {key : String} {v v' : Value}
    (hfailed : ∀ kind, kind.OfTable membership →
      R (.failed mode ⟨place, kind, Preview.of subject⟩)
        (.failed mode ⟨place', kind, Preview.of subject'⟩))
    (hdeclared : Option.Rel
      (fun visit visit' =>
        Walk.InStep R (visit v (place.child kind key)) (visit' v' (place'.child kind' key)))
      (declared key) (declared' key)) :
    Walk.InStep R (visitMember mode subject place kind membership declared (key, v))
      (visitMember mode subject' place' kind' membership declared' (key, v')) := by
  simp only [visitMember]
  generalize declared key = visit, declared' key = visit' at hdeclared
  cases hdeclared with
  | none =>
    cases membership.admits key with
    | true => exact hR.inStep_accepted
    | false => exact .failed (hfailed _ (.undeclaredKey key))
  | some h => exact h

/-- The children that two subjects have in common meet tables of one membership that miss the same
keys. -/
theorem inStep_visitTable {membership : Membership} {elements elements' : List (String × Ruleset)}
    {declared declared' : String → Option Visit} {kind kind' : ContainerKind}
    (hfailed : ∀ kind, kind.OfTable membership →
      R (.failed mode ⟨place, kind, Preview.of subject⟩)
        (.failed mode ⟨place', kind, Preview.of subject'⟩))
    (hchildren : children subject = children subject')
    (hmissing : missingKeys subject elements = missingKeys subject' elements')
    (hdeclared : ∀ child ∈ children subject, Option.Rel
      (fun visit visit' => Walk.InStep R (visit child.2 (place.child kind child.1))
        (visit' child.2 (place'.child kind' child.1)))
      (declared child.1) (declared' child.1)) :
    Walk.InStep R (visitTable mode subject place membership elements declared kind)
      (visitTable mode subject' place' membership elements' declared' kind') := by
  unfold visitTable
  rw [hmissing, ← hchildren]
  refine hR.inStep_both (hR.inStep_every (List.forall₂_same.mpr fun child hchild => ?_))
    (hR.inStep_every (List.forall₂_same.mpr fun key _ =>
      .failed (hfailed _ (.missingKey key))))
  exact hR.inStep_visitMember hfailed (hdeclared child hchild)

/-- Items that two subjects have in common meet lists of one upper bound. -/
theorem inStep_visitItemsFrom {visit visit' : Visit} {kind kind' : ContainerKind}
    {items : List (String × Value)}
    (hfailed : ∀ kind, kind.OfItems →
      R (.failed mode ⟨place, kind, Preview.of subject⟩)
        (.failed mode ⟨place', kind, Preview.of subject'⟩))
    (hvisit : ∀ child ∈ items, Walk.InStep R (visit child.2 (place.child kind child.1))
      (visit' child.2 (place'.child kind' child.1)))
    (most : Option Nat) (seen : Nat) :
    Walk.InStep R (visitItemsFrom mode subject place most visit kind seen items)
      (visitItemsFrom mode subject' place' most visit' kind' seen items) := by
  induction items generalizing seen with
  | nil => exact hR.inStep_accepted
  | cons child rest ih =>
    obtain ⟨hchild, hrest⟩ := List.forall_mem_cons.mp hvisit
    refine hR.inStep_both ?_ (hR.inStep_both hchild (ih hrest (seen + 1)))
    cases most with
    | none => exact hR.inStep_accepted
    | some most =>
      by_cases hseen : seen = most
      · simp only [if_pos hseen]
        exact .failed (hfailed _ (.tooMany most))
      · simp only [if_neg hseen]
        exact hR.inStep_accepted

/-- The children that two subjects have in common meet lists of the same bounds. -/
theorem inStep_visitItems {visit visit' : Visit} {kind kind' : ContainerKind}
    (hfailed : ∀ kind, kind.OfItems →
      R (.failed mode ⟨place, kind, Preview.of subject⟩)
        (.failed mode ⟨place', kind, Preview.of subject'⟩))
    (hchildren : children subject = children subject')
    (hvisit : ∀ child ∈ children subject,
      Walk.InStep R (visit child.2 (place.child kind child.1))
        (visit' child.2 (place'.child kind' child.1)))
    (least : Nat) (most : Option Nat) :
    Walk.InStep R (visitItems mode subject place least most visit kind)
      (visitItems mode subject' place' least most visit' kind') := by
  unfold visitItems
  rw [← hchildren]
  refine hR.inStep_both (hR.inStep_visitItemsFrom hfailed hvisit most 0) ?_
  by_cases hfew : (children subject).length < least
  · rw [if_pos hfew, if_pos hfew]
    exact .failed (hfailed _ (.tooFew least _))
  · rw [if_neg hfew, if_neg hfew]
    exact hR.inStep_accepted

/-- The children of two subjects meet the tables and lists that two rulesets declare. -/
theorem inStep_visitChildren {table table' items items' : Option (ContainerKind → Walk Bool)}
    {told : Option ContainerKind}
    (hfailed : R (.failed mode ⟨place, .notLoopable, Preview.of subject⟩)
      (.failed mode ⟨place', .notLoopable, Preview.of subject'⟩))
    (hkind : p.containerKind subject = p'.containerKind subject')
    (htable : Option.Rel (fun t t' => ∀ kind, (told <|> p.containerKind subject) = some kind →
      (t kind).InStep R (t' kind)) table table')
    (hitems : Option.Rel (fun l l' => ∀ kind, (told <|> p.containerKind subject) = some kind →
      (l kind).InStep R (l' kind)) items items') :
    Walk.InStep R (visitChildren p mode subject place told table items)
      (visitChildren p' mode subject' place' told table' items') := by
  unfold visitChildren
  rw [← hkind]
  cases hseen : told <|> p.containerKind subject with
  | none =>
    cases htable <;> cases hitems <;> first
      | exact hR.inStep_accepted
      | exact .failed hfailed
  | some kind =>
    cases htable with
    | none =>
      cases hitems with
      | none => exact hR.inStep_accepted
      | some hl => exact hl kind hseen
    | some ht =>
      cases hitems with
      | none => exact ht kind hseen
      | some hl => exact hR.inStep_orElse (ht kind hseen) (hl kind hseen)

/-- Two subjects that are not too deep meet two rulesets, whose fallbacks lead on in step. -/
theorem inStep_visitNode {r r' : Ruleset} {alternative alternative' : Option (Walk Bool)}
    {table table' items items' : Option (ContainerKind → Walk Bool)}
    (hdepth : ¬maxDepth < place.depth) (hdepth' : ¬maxDepth < place'.depth)
    (hanswer : AnswersInStep R (r.turnedDown mode subject place)
      (r'.turnedDown mode subject' place') (p.mainVerdict r subject) (p'.mainVerdict r' subject'))
    (hvalue : rescuedByValue p subject r.alternativeEnum =
      rescuedByValue p' subject' r'.alternativeEnum)
    (hnull : subject.isNull = subject'.isNull)
    (halternative : Option.Rel (Walk.LeadInStep R subject') alternative alternative')
    (hchildren : ∀ told, p.MayTell r subject told →
      Walk.InStep R (visitChildren p mode subject place told table items)
        (visitChildren p' mode subject' place' told table' items')) :
    Walk.InStep R (visitNode p mode subject place r alternative table items)
      (visitNode p' mode subject' place' r' alternative' table' items') := by
  generalize hmain : p.mainVerdict r subject = answer, hmain' : p'.mainVerdict r' subject' = answer'
    at hanswer
  cases hanswer with
  | error h =>
    rw [visitNode_of_error hdepth hmain, visitNode_of_error hdepth' hmain']
    exact .aborted h
  | settled =>
    rw [visitNode_of_settled hdepth hmain, visitNode_of_settled hdepth' hmain']
    exact hR.inStep_accepted
  | passed told =>
    rw [visitNode_of_passed hdepth hmain, visitNode_of_passed hdepth' hmain']
    exact hchildren told ⟨Provider.isNull_eq_false_of_passed hmain, Or.inr hmain⟩
  | failed h =>
    rw [visitNode_of_failed hdepth hmain, visitNode_of_failed hdepth' hmain', ← hvalue]
    cases rescuedByValue p subject r.alternativeEnum with
    | true => exact hR.inStep_accepted
    | false =>
      cases halternative with
      | none => exact .failed h
      | some ha =>
        refine ha ?_ (.failed h) fun hnull' => if_pos hnull'
        rw [← hnull]
        cases hvalue : subject.isNull with
        | true => exact hR.inStep_accepted
        | false => exact hchildren none ⟨hvalue, Or.inl rfl⟩

end Children

end ChildRelation

/-- Fallbacks lead on in step under a relation that all steps keep. -/
theorem StepRelation.leadInStep {mode : RecordMode} {R : Effect → Effect → Prop}
    (hR : StepRelation mode R) {a a' : Walk Bool} (ha : a.InStep R a') (subject : Value) :
    Walk.LeadInStep R subject a a' := by
  intro b b' c c' hb hc _
  obtain ⟨ea, ea', hea, hea', hra⟩ := ha
  obtain ⟨eb, eb', heb, heb', hrb⟩ := hb
  obtain ⟨ec, ec', hec, hec', hrc⟩ := hc
  exact ⟨_, _, hea.branch heb hec, hea'.branch heb' hec', hR.branch hra hrb hrc⟩

/-! ## One ruleset -/

section Reflexive

variable {R : Effect → Effect → Prop} (hrefl : ∀ e, R e e)

include hrefl

/-- A walk with an effect goes in step with itself. -/
theorem Walk.InStep.refl {w : Walk Bool} (h : ∃ e, w.HasEffect e) : InStep R w w := by
  obtain ⟨e, he⟩ := h
  exact ⟨e, e, he, he, hrefl e⟩

namespace Ruleset

variable (p : Provider) (mode : RecordMode) (r : Ruleset) (subject : Value) (place : Location)

/-- The walk of a ruleset goes in step with itself. -/
theorem inStep_visit_refl :
    Walk.InStep R (r.visit p mode subject place) (r.visit p mode subject place) :=
  .refl hrefl (r.exists_hasEffect_visit p mode subject place)

/-- The walk of the fallback of a ruleset goes in step with itself. -/
theorem inStep_alternativeWalk_refl : Option.Rel (Walk.InStep R)
    (r.alternativeWalk p mode subject place) (r.alternativeWalk p mode subject place) :=
  rel_map fun a _ => a.inStep_visit_refl hrefl p mode subject place

/-- The walk of the table of a ruleset goes in step with itself. -/
theorem inStep_tableWalk_refl : Option.Rel (fun t t' => ∀ kind, (t kind).InStep R (t' kind))
    (r.tableWalk p mode subject place) (r.tableWalk p mode subject place) :=
  rel_self fun _ ht kind => .refl hrefl (exists_hasEffect_tableWalk ht kind)

/-- The walk of the list of a ruleset goes in step with itself. -/
theorem inStep_itemsWalk_refl : Option.Rel (fun l l' => ∀ kind, (l kind).InStep R (l' kind))
    (r.itemsWalk p mode subject place) (r.itemsWalk p mode subject place) :=
  rel_self fun _ hl kind => .refl hrefl (exists_hasEffect_itemsWalk hl kind)

end Ruleset

/-- Two rulesets walk a subject in step if their main rules lead it the same way, and their fallbacks,
tables and lists go in step. -/
theorem ChildRelation.inStep_visit {p : Provider} {mode : RecordMode} {r r' : Ruleset}
    {subject : Value} {place : Location} (hR : ChildRelation mode R)
    (hanswer : AnswersInStep R (r.turnedDown mode subject place)
      (r'.turnedDown mode subject place) (p.mainVerdict r subject) (p.mainVerdict r' subject))
    (hvalue : r'.alternativeEnum = r.alternativeEnum)
    (halternative : Option.Rel (Walk.LeadInStep R subject)
      (r.alternativeWalk p mode subject place) (r'.alternativeWalk p mode subject place))
    (htable : Option.Rel (fun t t' => ∀ kind, (t kind).InStep R (t' kind))
      (r.tableWalk p mode subject place) (r'.tableWalk p mode subject place))
    (hitems : Option.Rel (fun l l' => ∀ kind, (l kind).InStep R (l' kind))
      (r.itemsWalk p mode subject place) (r'.itemsWalk p mode subject place)) :
    Walk.InStep R (r.visit p mode subject place) (r'.visit p mode subject place) := by
  rw [r.visit_eq, r'.visit_eq]
  by_cases hdeep : maxDepth < place.depth
  · rw [visitNode_of_deep hdeep, visitNode_of_deep hdeep]
    exact .aborted (hrefl _)
  refine hR.inStep_visitNode hdeep hdeep hanswer (by rw [hvalue]) rfl halternative fun told _ => ?_
  exact hR.inStep_visitChildren (hrefl _) rfl (rel_imp htable fun _ _ ht kind _ => ht kind)
    (rel_imp hitems fun _ _ hl kind _ => hl kind)

end Reflexive

end Rulebook
