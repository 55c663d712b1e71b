import Rulebook.Proofs.Challenge.Acceptance
import Rulebook.Proofs.Challenge.FullRecord
import Rulebook.Proofs.Challenge.KeyPath

/-!
# Places of failures

The walk carries a depth and a key path from a subject to its children, and looks at the subject that it
is given with them. The three stay together: a failure is recorded at a place that is as deep as the
steps from the top to some part of the subject, whose key path spells these steps, and with a preview
of that part. The path at the top is a prefix of all others, and nothing else depends on it.
-/

namespace Rulebook

open Json (Value)

/-! ## Steps into a subject -/

/-- A step from a container to a child. -/
inductive ChildStep where
  | item (index : Nat)
  | member (key : String)
  deriving DecidableEq, Repr

/-- A step as a key path spells it. -/
def ChildStep.text : ChildStep → String
  | .item index => "[" ++ toString index ++ "]"
  | .member key => "." ++ Text.excerpt key

/-- Steps as a key path spells them. -/
def stepsText : List ChildStep → String
  | [] => ""
  | step :: steps => step.text ++ stepsText steps

/-- A value leads to a part of it by some steps. -/
inductive Json.Value.LeadsTo : Value → List ChildStep → Value → Prop
  | here (v : Value) : LeadsTo v [] v
  | item {items : List Value} {index : Nat} {v w : Value} {steps : List ChildStep}
      (there : items[index]? = some v) (leads : LeadsTo v steps w) :
      LeadsTo (.array items) (.item index :: steps) w
  | member {members : List (String × Value)} {key : String} {v w : Value}
      {steps : List ChildStep} (there : (key, v) ∈ members) (leads : LeadsTo v steps w) :
      LeadsTo (.object members) (.member key :: steps) w

/-- The place that steps lead to. -/
def Location.along (place : Location) (steps : List ChildStep) : Location :=
  ⟨place.depth + steps.length, place.keyPath ++ stepsText steps⟩

/-- The first of some steps may be made by itself. -/
theorem Location.along_cons (place : Location) (step : ChildStep) (steps : List ChildStep) :
    place.along (step :: steps) = (place.along [step]).along steps := by
  simp only [along, stepsText, List.length_cons, List.length_nil, String.append_assoc,
    String.empty_append]
  congr 1
  omega

/-- An item under an ordinal key is the item of that number. -/
theorem exists_getElem?_of_mem_itemsFrom {child : String × Value} {first : Nat}
    {items : List Value} (h : child ∈ itemsFrom first items) :
    ∃ index, items[index]? = some child.2 ∧ child.1 = toString (first + index) := by
  induction items generalizing first with
  | nil => simp [itemsFrom] at h
  | cons v rest ih =>
    rcases List.mem_cons.mp h with rfl | hrest
    · exact ⟨0, rfl, rfl⟩
    · obtain ⟨index, hindex, hkey⟩ := ih hrest
      refine ⟨index + 1, hindex, ?_⟩
      rw [hkey, Nat.add_right_comm, Nat.add_assoc]

/-- A child is one step away, and its place spells that step if the kind of the container is told
right. -/
theorem exists_step_of_mem_children {subject : Value} {kind : ContainerKind}
    (hkind : Standard.containerKind subject = some kind) {child : String × Value}
    (hchild : child ∈ children subject) :
    ∃ step, (∀ place : Location, place.child kind child.1 = place.along [step]) ∧
      ∀ {steps w}, child.2.LeadsTo steps w → subject.LeadsTo (step :: steps) w := by
  cases subject with
  | array items =>
    obtain rfl := Option.some.inj hkind
    obtain ⟨index, hindex, hkey⟩ := exists_getElem?_of_mem_itemsFrom hchild
    refine ⟨.item index, fun place => ?_, fun hleads => .item hindex hleads⟩
    simp [hkey, Location.child, Location.along, stepsText, ChildStep.text, String.append_assoc]
  | object members =>
    obtain rfl := Option.some.inj hkind
    refine ⟨.member child.1, fun place => ?_, fun hleads => .member hchild hleads⟩
    simp [Location.child, Location.along, stepsText, ChildStep.text, String.append_assoc]
  | _ => cases hkind

/-! ## Kinds of containers -/

/-- What the main rules tell of a kind comes from the first type-checking rule to tell one. -/
theorem Ruleset.eq_findSome?_of_mainOutcome {p : Provider} {r : Ruleset} {subject : Value}
    {told : Option ContainerKind} (h : r.mainOutcome p subject = .passed told) :
    told = r.typeRules.findSome? (p.told? subject) := by
  unfold mainOutcome at h
  split at h
  · split at h <;> cases h
  · split at h
    · cases h
    · split at h
      · cases h
      · split at h
        · cases h
        · unfold Provider.patternOutcome at h
          split at h
          · cases h
          · exact (MainVerdict.passed.inj h).symm

/-- The kind with which the children of a subject are looked at is that of the subject. -/
theorem Provider.TellsKinds.containerKind_eq {p : Provider} (hp : p.TellsKinds) {r : Ruleset}
    {subject : Value} {told : Option ContainerKind} (h : p.MayTell r subject told)
    {kind : ContainerKind} (hkind : (told <|> p.containerKind subject) = some kind) :
    Standard.containerKind subject = some kind := by
  cases told with
  | none => exact (hp.kind subject).symm.trans hkind
  | some told =>
    obtain rfl : told = kind := Option.some.inj hkind
    have hpassed : p.mainVerdict r subject = .ok (.passed (some told)) := h.2.resolve_left (by simp)
    have hfound := Ruleset.eq_findSome?_of_mainOutcome (Provider.mainVerdict_eq hpassed)
    obtain ⟨q, _, hq⟩ := List.exists_of_findSome?_eq_some hfound.symm
    unfold Provider.told? at hq
    cases hcheck : p.check q.name subject q.arguments.values with
    | error e => simp [hcheck] at hq
    | ok verdict =>
      cases verdict <;> simp [hcheck, Verdict.container?] at hq
      exact hp.told (hq ▸ hcheck)

/-! ## Failures point into the subject -/

/-- A failure was found at a part of a subject at a place, no deeper than a walk goes. -/
def Failure.PointsInto (subject : Value) (place : Location) (f : Failure) : Prop :=
  (∃ steps v, subject.LeadsTo steps v ∧ f.place = place.along steps ∧ f.subject = Preview.of v) ∧
    f.place.depth ≤ maxDepth

/-- A failure of a subject itself points into it. -/
theorem Failure.pointsInto_self {subject : Value} {place : Location}
    (hdepth : ¬maxDepth < place.depth) (kind : FailureKind) :
    Failure.PointsInto subject place ⟨place, kind, Preview.of subject⟩ := by
  refine ⟨⟨[], subject, .here subject, ?_, rfl⟩, Nat.le_of_not_lt hdepth⟩
  simp [Location.along, stepsText]

/-- A failure that points into a child points into its container. -/
theorem Failure.PointsInto.of_child {subject : Value} {place : Location} {kind : ContainerKind}
    {child : String × Value} (hkind : Standard.containerKind subject = some kind)
    (hchild : child ∈ children subject) {f : Failure}
    (h : f.PointsInto child.2 (place.child kind child.1)) : f.PointsInto subject place := by
  obtain ⟨⟨steps, v, hleads, hplace, hsubject⟩, hdepth⟩ := h
  obtain ⟨step, hstep, hextends⟩ := exists_step_of_mem_children hkind hchild
  refine ⟨⟨step :: steps, v, hextends hleads, ?_, hsubject⟩, hdepth⟩
  rw [hplace, hstep, ← Location.along_cons]

namespace Effect

variable {mode : RecordMode} {P : Failure → Prop}

/-- All failures that an effect adds have a property. The second effect is there to be walked in step
with, and nothing is said of it. -/
def AddsOnly (P : Failure → Prop) (a _ : Effect) : Prop := ∀ f ∈ a.added, P f

/-- A failure that is added has a property if it has. -/
theorem AddsOnly.of_failed {f : Failure} (h : P f) (b : Effect) : AddsOnly P (.failed mode f) b := by
  cases hmode : mode.records <;> simp [AddsOnly, failed, hmode, h]

/-- The steps of walks add what the walks add that they put together. -/
theorem AddsOnly.stepRelation (P : Failure → Prop) (mode : RecordMode) :
    StepRelation mode (AddsOnly P) where
  accepted := by simp [AddsOnly, accepted]
  both {a _ b _} ha hb := by
    have happend : ∀ f ∈ a.added ++ b.added, P f := List.forall_mem_append.mpr ⟨ha, hb⟩
    unfold AddsOnly both
    cases a.result with
    | error e => exact ha
    | ok x =>
      cases x with
      | true => exact happend
      | false => cases mode.goesOn <;> first | exact happend | exact ha
  branch {a _ b _ c _} ha hb hc := by
    unfold AddsOnly branch
    cases a.result with
    | error e => exact ha
    | ok x => cases x <;> first | exact hb | exact hc
  orElse {a _ b _} ha hb := by
    have happend : ∀ f ∈ a.added ++ b.added, P f := List.forall_mem_append.mpr ⟨ha, hb⟩
    unfold AddsOnly orElse
    cases a.result with
    | error e => exact ha
    | ok x =>
      cases x with
      | true => exact ha
      | false =>
        cases b.result with
        | error e => exact happend
        | ok y => cases y <;> first | exact happend | simp [accepted]

end Effect

/-- Every failure that a walk adds points into the subject at its place. -/
theorem Ruleset.visit_pointsInto {p : Provider} (hp : p.TellsKinds) (mode : RecordMode) (r : Ruleset)
    (subject : Value) (place : Location) :
    Walk.InStep (Effect.AddsOnly (Failure.PointsInto subject place))
      (r.visit p mode subject place) (r.visit p mode subject place) := by
  induction r generalizing subject place with
  | ruleset r ih =>
    have hR := Effect.AddsOnly.stepRelation (Failure.PointsInto subject place) mode
    rw [r.visit_eq]
    by_cases hdeep : maxDepth < place.depth
    · rw [visitNode_of_deep hdeep]
      exact .aborted (by simp [Effect.AddsOnly, Effect.aborted])
    have hfailed (kind : FailureKind) (b : Effect) :
        Effect.AddsOnly (Failure.PointsInto subject place)
          (.failed mode ⟨place, kind, Preview.of subject⟩) b :=
      .of_failed (Failure.pointsInto_self hdeep kind) b
    have hchild {q : Ruleset} (hq : q ∈ r.parts) {kind : ContainerKind} {child : String × Value}
        (hkind : Standard.containerKind subject = some kind) (hmem : child ∈ children subject) :=
      (ih q hq child.2 (place.child kind child.1)).imp fun _ _ hadds f hf =>
        (hadds f hf).of_child hkind hmem
    refine hR.inStep_visitNode hdeep hdeep
      (.of_eq rfl (fun _ _ => by simp [Effect.AddsOnly, Effect.aborted]) fun _ _ => hfailed _ _) rfl rfl
      (rel_map fun a ha => hR.leadInStep (ih a (mem_parts_of_alternative ha) subject place) subject)
      fun told hmay => hR.inStep_visitChildren (hfailed _ _) rfl (rel_map ?_) (rel_map ?_)
    · intro t ht kind hseen
      have hkind := hp.containerKind_eq hmay hseen
      refine hR.inStep_visitTable (fun _ _ => hfailed _ _) rfl rfl fun child hmem => ?_
      exact rel_map fun q hq =>
        hchild (mem_parts_of_element ht (Association.mem_of_lookup hq)) hkind hmem
    · intro l hl kind hseen
      have hkind := hp.containerKind_eq hmay hseen
      exact hR.inStep_visitItems (fun _ _ => hfailed _ _) rfl
        (fun child hmem => hchild (mem_parts_of_items hl) hkind hmem) _ _

namespace Ruleset

/-- Every failure in the record of a challenge was found at a part of the subject: at most ten steps lead
from the subject to it, its depth is their number, its key path spells them behind the path that was
given, and its preview is that of the part. Nothing but the front of key paths depends on the path
that was given. -/
theorem failures_point_into_subject [PatternEngine] (mode : RecordMode) (r : Ruleset)
    (subject : Value) (keyPath : String) :
    (∀ f ∈ (r.challenge .standard mode subject keyPath).record,
      ∃ steps v, subject.LeadsTo steps v ∧ steps.length ≤ 10 ∧
        f.place = ⟨steps.length, keyPath ++ stepsText steps⟩ ∧ f.subject = Preview.of v) ∧
    r.challenge .standard mode subject keyPath =
      (r.challenge .standard mode subject "").under keyPath := by
  refine ⟨fun f hf => ?_, r.challenge_eq_under _ mode subject keyPath⟩
  obtain ⟨e, _, he, _, hadds⟩ :=
    r.visit_pointsInto Provider.standard_tellsKinds mode subject ⟨0, keyPath⟩
  rw [challenge_of_hasEffect he] at hf
  obtain ⟨⟨steps, v, hleads, hplace, hsubject⟩, hdepth⟩ := hadds f hf
  have hlength : f.place = ⟨steps.length, keyPath ++ stepsText steps⟩ := by
    rw [hplace, Location.along, Nat.zero_add]
  rw [hlength] at hdepth
  exact ⟨steps, v, hleads, hdepth, hlength, hsubject⟩

/-- Maps of lists of integers. -/
def integerLists : Ruleset :=
  { ofType "loopable" with
    listItems := some ⟨0, none, { ofType "loopable" with
      listItems := some ⟨0, none, ofType "integer"⟩ }⟩ }

/-- The second item of a list under a key is a text, which is two steps into the subject at any path. -/
theorem integerLists_failure :
    let subject := Value.object [("a", .array [.number (.int 1), .string "x"])]
    let record := (integerLists.challenge .standard .all subject "root").record
    ∃ f, record = [f] ∧ f.place = ⟨2, "root.a[1]"⟩ ∧
      (∃ steps v, subject.LeadsTo steps v ∧ steps.length = 2 ∧ f.subject = Preview.of v) ∧
      (integerLists.challenge .standard .all subject "").record.map (Failure.under "root") = record := by
  intro subject record
  obtain ⟨hpoints, hunder⟩ := failures_point_into_subject .all integerLists subject "root"
  obtain ⟨f, hrecord, hplace⟩ : ∃ f, record = [f] ∧ f.place = ⟨2, "root.a[1]"⟩ := ⟨_, rfl, by decide⟩
  have hmem : f ∈ record := by rw [hrecord]; exact List.mem_cons_self
  obtain ⟨steps, v, hleads, _, hsteps, hsubject⟩ := hpoints f hmem
  have hlength : steps.length = 2 := by
    simpa using congrArg Location.depth (hsteps.symm.trans hplace)
  exact ⟨f, hrecord, hplace, ⟨steps, v, hleads, hlength, hsubject⟩,
    congrArg Challenged.record hunder.symm⟩

end Ruleset

end Rulebook
