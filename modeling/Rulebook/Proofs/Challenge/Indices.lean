import Mathlib.Data.List.Nodup
import Rulebook.Proofs.Challenge.Acceptance
import Rulebook.Proofs.Challenge.KeyPath

/-!
# Arrays and objects of indices

The items of an array have their indices as keys, so an array has the children of the object that
has these keys. A ruleset that asks of a container for its size alone cannot tell the two apart:
their challenges differ in the key paths that they tell, and in how the container itself looks.
-/

namespace Rulebook

open Json (Value)

/-! ## Containers with the same children -/

/-- The object that has items under their indices. -/
def indexObject (items : List Value) : Value :=
  .object (items.zipIdx.map fun item => (toString item.2, item.1))

/-- Ordinal keys are the texts of indices. -/
theorem itemsFrom_eq_map_zipIdx (first : Nat) (items : List Value) :
    itemsFrom first items = (items.zipIdx first).map fun item => (toString item.2, item.1) := by
  induction items generalizing first with
  | nil => rfl
  | cons v rest ih => simp [itemsFrom, ih]

/-- Two indices do not have one text. -/
theorem toString_index_injective : Function.Injective (toString : Nat → String) := by
  intro i j h
  have hdigits : Nat.toDigits 10 i = Nat.toDigits 10 j := by
    simpa only [Nat.toString_eq_repr, Nat.toList_repr] using congrArg String.toList h
  simpa using congrArg (Nat.ofDigitChars 10 · 0) hdigits

/-- The keys of an object of indices are distinct, so it is an object indeed, however many items
there are. -/
theorem nodup_keys_indexObject (items : List Value) :
    (Association.keys (children (indexObject items))).Nodup := by
  have hkeys : Association.keys (children (indexObject items)) =
      (List.range' 0 items.length).map toString := by
    simp [Association.keys, children, indexObject, ← List.zipIdx_map_snd, Function.comp_def]
  rw [hkeys]
  exact List.Nodup.map toString_index_injective List.nodup_range'

/-- Two containers have the same children, under the same keys and in the same order. -/
structure Json.Value.SameChildren (v w : Value) : Prop where
  left : v.isContainer = true
  right : w.isContainer = true
  children_eq : children v = children w

/-- An array has the children of the object of its indices. -/
theorem sameChildren_indexObject (items : List Value) :
    Value.SameChildren (.array items) (indexObject items) where
  left := rfl
  right := rfl
  children_eq := itemsFrom_eq_map_zipIdx 0 items

namespace Json.Value

variable {v w : Value}

/-- The size of a container is the number of its children. -/
theorem size?_of_isContainer (h : v.isContainer = true) :
    Standard.size? v = some (children v).length := by
  cases v with
  | array items => simp [Standard.size?, children, itemsFrom_eq_map_zipIdx]
  | object members => rfl
  | _ => cases h

/-- A container is empty if it has no children. -/
theorem isEmpty_of_isContainer (h : v.isContainer = true) :
    Standard.isEmpty v = (children v).isEmpty := by
  cases v with
  | array items => cases items <;> rfl
  | object members => rfl
  | _ => cases h

/-- A container is not null. -/
theorem isNull_of_isContainer (h : v.isContainer = true) : v.isNull = false := by
  cases v <;> first | rfl | cases h

/-- A container has the children that it has. -/
theorem SameChildren.refl (h : v.isContainer = true) : v.SameChildren v := ⟨h, h, rfl⟩

end Json.Value

/-! ## Rules for sizes -/

/-- A pattern rule that asks for the size of a container. -/
def Rule.AsksForSize (rule : Rule) : Prop :=
  rule.kind = .pattern ∧ rule.name ∈ ["minSize", "maxSize", "exactSize"]

/-- A ruleset that asks of a subject itself no more than that it is a container of a certain size,
with no fallback. What it declares for the children may ask for anything. -/
structure Ruleset.AsksForSize (r : Ruleset) : Prop where
  types : r.typeRules.map Rule.name = ["loopable"]
  patterns : ∀ rule ∈ r.patternRules, rule.AsksForSize
  values : r.alternativeEnum = none
  rules : r.alternativeRuleSet = none

/-- The type-checking rule of a ruleset that asks for sizes tells the kind of a container. -/
theorem Ruleset.AsksForSize.checkTypes_eq [PatternEngine] {r : Ruleset} (hr : r.AsksForSize)
    {v : Value} (hv : v.isContainer = true) :
    Provider.standard.checkTypes v none r.typeRules = .ok (.ok (Standard.containerKind v)) := by
  obtain ⟨rule, htypes, hname⟩ := List.map_eq_singleton_iff.mp hr.types
  have hcheck : Provider.standard.check rule.name v rule.arguments.values =
      .ok (Standard.containerVerdict v) := by
    rw [hname]
    rfl
  obtain ⟨kind, hkind⟩ := Option.isSome_iff_exists.mp ((isSome_containerKind v).trans hv)
  simp [htypes, Provider.checkTypes, hcheck, Standard.containerVerdict, hkind, Verdict.passed,
    Verdict.container?]

/-- A verdict with another kind of container, or none, told of a subject that has passed. -/
def MainVerdict.telling (told : Option ContainerKind) : MainVerdict → MainVerdict
  | .passed _ => .passed told
  | verdict => verdict

namespace Json.Value.SameChildren

variable {v w : Value} (h : v.SameChildren w) {r : Ruleset}

include h

/-- A rule for sizes says the same of containers with the same children. -/
theorem passesPattern_eq [PatternEngine] {rule : Rule} (hrule : rule.AsksForSize) :
    Provider.standard.passesPattern v rule = Provider.standard.passesPattern w rule := by
  obtain ⟨name, arguments, kind, formerNames⟩ := rule
  obtain ⟨rfl, hname⟩ := hrule
  have hsize : Standard.size? v = Standard.size? w := by
    rw [size?_of_isContainer h.left, size?_of_isContainer h.right, h.children_eq]
  have hmeasured (relation : Nat → Nat → Bool) :
      Standard.measured name Standard.size? relation v arguments.values =
        Standard.measured name Standard.size? relation w arguments.values := by
    simp only [Standard.measured, hsize]
  have hcheck : Provider.standard.check name v arguments.values =
      Provider.standard.check name w arguments.values := by
    simp only [List.mem_cons, List.not_mem_nil, or_false] at hname
    obtain rfl | rfl | rfl := hname <;> exact congrArg StandardRule.tested (hmeasured _)
  simp only [Provider.passesPattern, hcheck]

/-- The first rule for sizes that fails is one for containers with the same children. -/
theorem failedPattern?_eq [PatternEngine] {rules : List Rule}
    (hrules : ∀ rule ∈ rules, rule.AsksForSize) :
    Provider.standard.failedPattern? v rules = Provider.standard.failedPattern? w rules := by
  induction rules with
  | nil => rfl
  | cons rule rest ih =>
    obtain ⟨hrule, hrest⟩ := List.forall_mem_cons.mp hrules
    simp only [Provider.failedPattern?, h.passesPattern_eq hrule, ih hrest]

/-- Rules for sizes say the same of containers with the same children, whatever kind was told. -/
theorem patternVerdict_eq [PatternEngine] (hr : r.AsksForSize) (told told' : Option ContainerKind) :
    Provider.standard.patternVerdict w told' r.patternRules =
      (Provider.standard.patternVerdict v told r.patternRules).map (.telling told') := by
  simp only [Provider.patternVerdict, h.failedPattern?_eq hr.patterns]
  cases Provider.standard.failedPattern? w r.patternRules with
  | error e => rfl
  | ok failed => cases failed <;> rfl

/-- A ruleset that asks for sizes says the same of containers with the same children, apart from the
kind that it tells. -/
theorem mainVerdict_eq [PatternEngine] (hr : r.AsksForSize) :
    Provider.standard.mainVerdict r w =
      (Provider.standard.mainVerdict r v).map (.telling (Standard.containerKind w)) := by
  have hempty : Provider.standard.isEmpty v = Provider.standard.isEmpty w := by
    change Standard.isEmpty v = Standard.isEmpty w
    rw [isEmpty_of_isContainer h.left, isEmpty_of_isContainer h.right, h.children_eq]
  have hpatterns := h.patternVerdict_eq hr (Standard.containerKind v) (Standard.containerKind w)
  simp only [Provider.mainVerdict, isNull_of_isContainer h.left, isNull_of_isContainer h.right,
    hr.checkTypes_eq h.left, hr.checkTypes_eq h.right, hempty, hpatterns]
  cases r.emptiness with
  | none => rfl
  | some emptiness => cases emptiness <;> cases Provider.standard.isEmpty w <;> rfl

end Json.Value.SameChildren

/-! ## What two challenges have in common -/

/-- An error without the key path of the place that it tells, if it tells one of a subject. -/
def ChallengeError.unplaced : ChallengeError → ChallengeError
  | .recursionLimit place => .recursionLimit { place with keyPath := "" }
  | error => error

/-- A failure without its key path and, if it is one of the subject at the top, without the look of
that subject. -/
def Failure.unplaced (f : Failure) : Failure :=
  { f with
    place := { f.place with keyPath := "" }
    subject := if f.place.depth = 0 then Preview.of .null else f.subject }

/-- Two failures are of one level and one reason, and below the top of subjects that look alike. -/
structure Failure.Matches (f f' : Failure) : Prop where
  depth : f.place.depth = f'.place.depth
  kind : f.kind = f'.kind
  subject : f.place.depth ≠ 0 → f.subject = f'.subject

/-- Two challenges come to one verdict, or to errors that differ in a key path at most, and their
records match failure by failure. -/
structure Challenged.Matches (c c' : Challenged) : Prop where
  result : c.result.mapError ChallengeError.unplaced = c'.result.mapError ChallengeError.unplaced
  record : List.Forall₂ Failure.Matches c.record c'.record

/-- Failures that are one without their places match. -/
theorem Failure.Matches.of_unplaced_eq {f f' : Failure} (h : f.unplaced = f'.unplaced) :
    f.Matches f' := by
  simp only [Failure.unplaced, Failure.mk.injEq, Location.mk.injEq, and_true] at h
  obtain ⟨hdepth, hkind, hsubject⟩ := h
  refine ⟨hdepth, hkind, fun hbelow => ?_⟩
  rwa [if_neg hbelow, if_neg (hdepth ▸ hbelow)] at hsubject

namespace Effect

/-- Two effects differ in key paths at most, and in the look of the subject at the top. -/
def SameUnplaced (e e' : Effect) : Prop :=
  e.map .unplaced .unplaced = e'.map .unplaced .unplaced

/-- The steps of walks look neither at key paths nor at subjects that have failed. -/
theorem SameUnplaced.childRelation (mode : RecordMode) : ChildRelation mode SameUnplaced where
  accepted := rfl
  both ha hb := by rw [SameUnplaced, map_both, map_both, ha, hb]
  orElse ha hb := by rw [SameUnplaced, map_orElse, map_orElse, ha, hb]

/-- Failures at the top for one reason. -/
theorem SameUnplaced.failed {place : Location} (htop : place.depth = 0) (mode : RecordMode)
    (kind : FailureKind) (subject subject' : Preview) :
    SameUnplaced (.failed mode ⟨place, kind, subject⟩) (.failed mode ⟨place, kind, subject'⟩) := by
  rw [SameUnplaced, map_failed, map_failed, Failure.unplaced, Failure.unplaced, if_pos htop,
    if_pos htop]

/-- A key path in front of all others does not show in what is left without key paths. -/
theorem map_unplaced_map_under (keyPath : String) (e : Effect) :
    (e.map (.under keyPath) (.under keyPath)).map .unplaced .unplaced =
      e.map .unplaced .unplaced := by
  have herror (error : ChallengeError) : (error.under keyPath).unplaced = error.unplaced := by
    cases error <;> rfl
  have hresult : (e.result.mapError (ChallengeError.under keyPath)).mapError
      ChallengeError.unplaced = e.result.mapError ChallengeError.unplaced := by
    cases e.result with
    | error error => exact congrArg Except.error (herror error)
    | ok verdict => rfl
  simp only [map, hresult, List.map_map, Effect.mk.injEq, true_and]
  rfl

end Effect

/-! ## The walk -/

/-- A subject is walked with one effect at all places of one level, apart from key paths. -/
theorem Ruleset.inStep_visit_of_depth_eq (p : Provider) (mode : RecordMode) (r : Ruleset)
    (subject : Value) {place place' : Location} (hdepth : place.depth = place'.depth) :
    Walk.InStep Effect.SameUnplaced (r.visit p mode subject place)
      (r.visit p mode subject place') := by
  -- both walks are the one at that level behind no key path, behind one
  have hunder (place : Location) : (⟨place.depth, ""⟩ : Location).under place.keyPath = place := by
    simp [Location.under]
  obtain ⟨e, _, he, hplace, rfl⟩ :=
    r.inStep_visit_under p mode place.keyPath subject ⟨place.depth, ""⟩
  obtain ⟨e', _, he', hplace', rfl⟩ :=
    r.inStep_visit_under p mode place'.keyPath subject ⟨place'.depth, ""⟩
  rw [hdepth] at he
  obtain rfl := he.unique he'
  rw [hunder] at hplace hplace'
  refine ⟨_, _, hplace, hplace', ?_⟩
  rw [Effect.SameUnplaced, Effect.map_unplaced_map_under, Effect.map_unplaced_map_under]

/-- A child is walked with one effect in containers of all kinds, apart from key paths. -/
theorem Ruleset.inStep_visit_child (p : Provider) (mode : RecordMode) (r : Ruleset)
    (child : String × Value) (place : Location) (kind kind' : ContainerKind) :
    Walk.InStep Effect.SameUnplaced (r.visit p mode child.2 (place.child kind child.1))
      (r.visit p mode child.2 (place.child kind' child.1)) :=
  r.inStep_visit_of_depth_eq p mode child.2 (by rw [Location.depth_child, Location.depth_child])

/-- The children of two subjects, of which kinds have been told, meet tables and lists that go in
step. -/
theorem ChildRelation.inStep_visitChildren_of_told {mode : RecordMode}
    {R : Effect → Effect → Prop} (hR : ChildRelation mode R) {p : Provider} {v w : Value}
    {place place' : Location} {kind kind' : ContainerKind}
    {table table' items items' : Option (ContainerKind → Walk Bool)}
    (htable : Option.Rel (fun t t' => (t kind).InStep R (t' kind')) table table')
    (hitems : Option.Rel (fun l l' => (l kind).InStep R (l' kind')) items items') :
    Walk.InStep R (visitChildren p mode v place (some kind) table items)
      (visitChildren p mode w place' (some kind') table' items') := by
  cases htable with
  | none =>
    cases hitems with
    | none => exact hR.inStep_accepted
    | some hl => exact hl
  | some ht =>
    cases hitems with
    | none => exact ht
    | some hl => exact hR.inStep_orElse ht hl

namespace Json.Value.SameChildren

section Top

variable {v w : Value} (h : v.SameChildren w) {r : Ruleset} {mode : RecordMode}
  {place : Location} (htop : place.depth = 0)

include h htop

/-- The children that two containers at the top have in common meet a table in step. -/
theorem inStep_tableWalk [PatternEngine] (kind kind' : ContainerKind) :
    Option.Rel (fun t t' => (t kind).InStep Effect.SameUnplaced (t' kind'))
      (r.tableWalk .standard mode v place) (r.tableWalk .standard mode w place) := by
  refine rel_map fun t _ => ?_
  have hmissing : missingKeys v t.elements = missingKeys w t.elements := by
    simp only [missingKeys, h.children_eq]
  exact (Effect.SameUnplaced.childRelation mode).inStep_visitTable
    (fun kind _ => .failed htop mode kind _ _) h.children_eq hmissing
    fun child _ => rel_map fun q _ => q.inStep_visit_child _ mode child place kind kind'

/-- The children that two containers at the top have in common meet a list in step. -/
theorem inStep_itemsWalk [PatternEngine] (kind kind' : ContainerKind) :
    Option.Rel (fun l l' => (l kind).InStep Effect.SameUnplaced (l' kind'))
      (r.itemsWalk .standard mode v place) (r.itemsWalk .standard mode w place) := by
  refine rel_map fun l _ => ?_
  exact (Effect.SameUnplaced.childRelation mode).inStep_visitItems
    (fun kind _ => .failed htop mode kind _ _) h.children_eq
    (fun child _ => l.itemRules.inStep_visit_child _ mode child place kind kind') _ _

/-- A ruleset that asks for sizes walks containers with the same children at the top in step. -/
theorem inStep_visit [PatternEngine] (hr : r.AsksForSize) :
    Walk.InStep Effect.SameUnplaced (r.visit .standard mode v place)
      (r.visit .standard mode w place) := by
  have hR := Effect.SameUnplaced.childRelation mode
  have hshallow : ¬maxDepth < place.depth := by
    rw [htop]
    exact Nat.not_lt_zero _
  have hleft := (SameChildren.refl h.left).mainVerdict_eq hr
  have hright := h.mainVerdict_eq hr
  rw [r.visit_eq, r.visit_eq]
  cases hanswer : Provider.standard.mainVerdict r v with
  | error e =>
    rw [hanswer] at hright
    rw [visitNode_of_error hshallow hanswer, visitNode_of_error hshallow hright]
    exact .aborted rfl
  | ok verdict =>
    rw [hanswer] at hleft hright
    cases verdict with
    | settled =>
      rw [visitNode_of_settled hshallow hanswer, visitNode_of_settled hshallow hright]
      exact hR.inStep_accepted
    | failed shortfall =>
      rw [visitNode_of_failed hshallow hanswer, visitNode_of_failed hshallow hright]
      simp only [hr.values, Ruleset.alternativeWalk, hr.rules]
      exact .failed (.failed htop mode _ _ _)
    | passed told =>
      obtain ⟨kind, hkind⟩ := Option.isSome_iff_exists.mp ((isSome_containerKind v).trans h.left)
      obtain ⟨kind', hkind'⟩ :=
        Option.isSome_iff_exists.mp ((isSome_containerKind w).trans h.right)
      rw [hkind] at hleft
      rw [hkind'] at hright
      rw [visitNode_of_passed hshallow (hanswer.trans hleft),
        visitNode_of_passed hshallow hright]
      exact hR.inStep_visitChildren_of_told (h.inStep_tableWalk htop kind kind')
        (h.inStep_itemsWalk htop kind kind')

end Top

/-- Challenges of containers with the same children match. -/
theorem challenge_matches [PatternEngine] {v w : Value} (h : v.SameChildren w) {r : Ruleset}
    (hr : r.AsksForSize) (mode : RecordMode) (keyPath : String) :
    (r.challenge .standard mode v keyPath).Matches (r.challenge .standard mode w keyPath) := by
  have hvisit : Walk.InStep Effect.SameUnplaced (r.visit .standard mode v ⟨0, keyPath⟩)
      (r.visit .standard mode w ⟨0, keyPath⟩) := h.inStep_visit rfl hr
  obtain ⟨e, e', he, he', hsame⟩ := hvisit
  rw [Ruleset.challenge_of_hasEffect he, Ruleset.challenge_of_hasEffect he']
  obtain ⟨hresult, hadded⟩ := Effect.mk.inj hsame
  refine ⟨hresult, ?_⟩
  rw [← List.forall₂_eq_eq_eq, List.forall₂_map_left_iff, List.forall₂_map_right_iff] at hadded
  exact hadded.imp fun _ _ => .of_unplaced_eq

end Json.Value.SameChildren

namespace Ruleset

/-- An array is validated like the object of its indices, which are distinct keys, by every ruleset
that asks of the container for its size alone. In every mode, both challenges come to one verdict,
or to errors of one variant that differ in a key path at most. Their records match: failure by
failure they tell of one level and of one reason, and below the top of subjects that look alike. -/
theorem challenge_array_matches_indexObject [PatternEngine] {r : Ruleset} (hr : r.AsksForSize)
    (items : List Value) (keyPath : String) (mode : RecordMode) :
    (Association.keys (children (indexObject items))).Nodup ∧
    (r.challenge .standard mode (.array items) keyPath).Matches
      (r.challenge .standard mode (indexObject items) keyPath) :=
  ⟨nodup_keys_indexObject items, (sameChildren_indexObject items).challenge_matches hr mode keyPath⟩

/-- Two items or more: two integers at certain indices and nothing else, or at least three texts. -/
def twoIntegersOrTexts : Ruleset :=
  { ofType "loopable" with
    patternRules := [⟨"minSize", .list [.number (.int 2)], .pattern, []⟩]
    tableElements := some ⟨[("0", ofType "integer"), ("2", ofType "integer")], .exclusive⟩
    listItems := some ⟨3, none, ofType "string"⟩ }

/-- A text and an integer fail the table by what is at one index, not allowed at another and missing
at a third, and the list by an item and by their number. The items of the array have other key paths
than those of the object. -/
theorem twoIntegersOrTexts_matches :
    let items := [Value.string "x", .number (.int 1)]
    let array := twoIntegersOrTexts.challenge .standard .all (.array items) "root"
    let object := twoIntegersOrTexts.challenge .standard .all (indexObject items) "root"
    let paths := fun c : Challenged => c.record.map fun f => f.place.keyPath
    array.Matches object ∧ array.result = .ok false ∧
    paths array = ["root[0]", "root", "root", "root[1]", "root"] ∧
    paths object = ["root.0", "root", "root", "root.1", "root"] := by
  intro items array object paths
  have hr : twoIntegersOrTexts.AsksForSize :=
    ⟨rfl, by simp [twoIntegersOrTexts, Rule.AsksForSize], rfl, rfl⟩
  obtain ⟨_, hmatches⟩ := challenge_array_matches_indexObject hr items "root" .all
  exact ⟨hmatches, rfl, rfl, rfl⟩

end Ruleset

end Rulebook
