import Rulebook.Proofs.Challenge.Answers
import Rulebook.Proofs.Challenge.FirstFailure
import Rulebook.Proofs.Challenge.Modes
import Rulebook.Proofs.Challenge.Tally
import Rulebook.Proofs.Json.Reordering
import Rulebook.Standard.Provider

/-!
# The order of members and the challenge

No rule looks at the order in which a subject lists the members of its objects. The walk meets them in
that order, and so it records the same failures in another order and comes to the same verdict.
-/

namespace Rulebook

open Json (Value)

/-! ## Subjects -/

namespace Json.Value

variable {v w : Value}

/-- Values of one outline look alike in a report. -/
theorem SameOutline.preview_eq (h : v.SameOutline w) : Preview.of v = Preview.of w := by
  cases h with
  | refl => rfl
  | array h => simp [Preview.of, h]
  | object h => simp [Preview.of, h]

/-- Values of one outline are null alike. -/
theorem SameOutline.isNull_eq (h : v.SameOutline w) : v.isNull = w.isNull := by
  cases h <;> rfl

/-- Items that are reordered one by one are children of the same keys. -/
theorem exists_itemsFrom (items : List (Value × Value)) (h : ∀ i ∈ items, Reordered i.1 i.2)
    (first : Nat) :
    ∃ pairs : List (String × Value × Value),
      itemsFrom first (items.map Prod.fst) = pairs.map (fun c => (c.1, c.2.1)) ∧
      itemsFrom first (items.map Prod.snd) = pairs.map (fun c => (c.1, c.2.2)) ∧
      ∀ c ∈ pairs, Reordered c.2.1 c.2.2 := by
  induction items generalizing first with
  | nil => exact ⟨[], rfl, rfl, by simp⟩
  | cons i rest ih =>
    obtain ⟨hi, hrest⟩ := List.forall_mem_cons.mp h
    obtain ⟨pairs, hleft, hright, hpairs⟩ := ih hrest (first + 1)
    refine ⟨(toString first, i) :: pairs, ?_, ?_, List.forall_mem_cons.mpr ⟨hi, hpairs⟩⟩
    · simp [itemsFrom, hleft]
    · simp [itemsFrom, hright]

/-- Reordered values have the same children up to their order, each of them reordered. -/
theorem Reordered.exists_children (h : Reordered v w) :
    ∃ pairs : List (String × Value × Value),
      children v = pairs.map (fun c => (c.1, c.2.1)) ∧
      (children w).Perm (pairs.map fun c => (c.1, c.2.2)) ∧
      ∀ c ∈ pairs, Reordered c.2.1 c.2.2 := by
  cases h with
  | refl =>
    refine ⟨(children v).map fun c => (c.1, c.2, c.2), ?_, ?_, ?_⟩
    · simp [Function.comp_def]
    · simp [Function.comp_def]
    · exact List.forall_mem_map.mpr fun c _ => .refl c.2
  | array items hitems =>
    obtain ⟨pairs, hleft, hright, hpairs⟩ := exists_itemsFrom items hitems 0
    exact ⟨pairs, hleft, .of_eq hright, hpairs⟩
  | object members hmembers order => exact ⟨members, rfl, order, hmembers⟩

/-- The values of items with numbers as keys. -/
theorem map_snd_itemsFrom (first : Nat) (items : List Value) :
    (itemsFrom first items).map Prod.snd = items := by
  induction items generalizing first with
  | nil => rfl
  | cons v rest ih => simp [itemsFrom, ih]

/-- Keys are distinct in the children of a value where they are distinct in the value. -/
theorem KeysDistinct.of_mem_children (h : v.KeysDistinct) {child : String × Value}
    (hchild : child ∈ children v) : child.2.KeysDistinct := by
  cases v with
  | array items =>
    have hmem : child.2 ∈ (itemsFrom 0 items).map Prod.snd := List.mem_map_of_mem hchild
    rw [map_snd_itemsFrom] at hmem
    exact keysDistinct_array.mp h _ hmem
  | object members => exact (keysDistinct_object.mp h).2 _ hchild
  | _ => simp [children] at hchild

end Json.Value

/-- The keys that are missing do not depend on the order of those that are there. -/
theorem missingKeys_of_perm {subject other : Value}
    (h : (Association.keys (children other)).Perm (Association.keys (children subject)))
    (elements : List (String × Ruleset)) :
    missingKeys subject elements = missingKeys other elements := by
  unfold missingKeys
  simp only [h.contains_eq]

/-! ## Rules -/

/-- A provider does not look at the order of members. -/
structure Provider.OrderBlind (p : Provider) : Prop where
  check : ∀ {v w : Value}, v.Reordered w → ∀ name args, p.check name v args = p.check name w args
  isEmpty : ∀ {v w : Value}, v.Reordered w → p.isEmpty v = p.isEmpty w
  isMember : ∀ {v w : Value}, v.Reordered w → v.KeysDistinct →
    ∀ values, p.isMember v values = p.isMember w values
  containerKind : ∀ {v w : Value}, v.Reordered w → p.containerKind v = p.containerKind w

/-- A standard rule asks of containers for their kind and their size alone. -/
theorem StandardRule.check_eq [PatternEngine] {v w : Value} (h : v.SameOutline w) (r : StandardRule)
    (args : List Value) : r.check v args = r.check w args := by
  cases h with
  | refl => rfl
  | array h => cases r <;> first | rfl | simp only [check, Standard.measured, Standard.size?, h]
  | object h => cases r <;> first | rfl | simp only [check, Standard.measured, Standard.size?, h]

/-- Lists of one length are empty alike. -/
theorem isEmpty_eq_of_length_eq {α : Type} {list other : List α}
    (h : list.length = other.length) : list.isEmpty = other.isEmpty := by
  rw [Bool.eq_iff_iff, List.isEmpty_iff_length_eq_zero, List.isEmpty_iff_length_eq_zero, h]

/-- The standard provider does not look at the order of members. -/
theorem Provider.standard_orderBlind [PatternEngine] : Provider.standard.OrderBlind where
  check h name args := by
    simp only [standard]
    cases StandardRule.ofName? name with
    | none => rfl
    | some r => exact r.check_eq h.sameOutline args
  isEmpty h := by
    cases h.sameOutline with
    | refl => rfl
    | array hlength => exact isEmpty_eq_of_length_eq hlength
    | object hlength => exact isEmpty_eq_of_length_eq hlength
  isMember h hv values := h.memberOf_eq hv values
  containerKind h := by cases h.sameOutline <;> rfl

/-! ## The walk -/

/-- A provider that does not look at the order of members answers alike about subjects that differ in
it. -/
theorem Provider.OrderBlind.answersAlike {p : Provider} (hp : p.OrderBlind) {subject other : Value}
    (hkeys : subject.KeysDistinct) (horder : subject.Reordered other) :
    p.AnswersAlike p subject other where
  null := horder.sameOutline.isNull_eq
  check _ := hp.check horder
  isEmpty _ := hp.isEmpty horder
  isMember _ := hp.isMember horder hkeys
  containerKind _ := hp.containerKind horder

section Children

open Effect Walk

variable {p : Provider} {subject other : Value} {place : Location}
  (horder : subject.Reordered other) (hkeys : subject.KeysDistinct)

include horder hkeys

/-- Steps over the children of two subjects are alike if they are so for children of one key. -/
theorem alike_every_children {step step' : String × Value → Walk Bool}
    (hstep : ∀ key {v w : Value}, v.KeysDistinct → v.Reordered w →
      (step (key, v)).Alike (step' (key, w))) :
    (Walk.every .all step (children subject)).Alike (.every .all step' (children other)) := by
  obtain ⟨pairs, hchildren, hother, hpairs⟩ := horder.exists_children
  have hpair : ∀ c ∈ pairs, (step (c.1, c.2.1)).Alike (step' (c.1, c.2.2)) := by
    intro c hc
    have hmem : (c.1, c.2.1) ∈ children subject :=
      hchildren ▸ List.mem_map_of_mem (f := fun c => (c.1, c.2.1)) hc
    exact hstep c.1 (hkeys.of_mem_children hmem) (hpairs c hc)
  have hright : ∀ c ∈ pairs, (step' (c.1, c.2.2)).Alike (step' (c.1, c.2.2)) :=
    fun c hc => (hpair c hc).symm.left
  have hinner : (Walk.every .all step (children subject)).Alike
      (.every .all step' (pairs.map fun c => (c.1, c.2.2))) := by
    rw [hchildren]
    refine Alike.every ?_
    rw [List.forall₂_map_left_iff, List.forall₂_map_right_iff]
    exact List.forall₂_same.mpr hpair
  exact hinner.trans (.every_of_perm hother.symm (List.forall_mem_map.mpr hright))

/-- Two subjects meet a table alike if their children meet what it declares alike. -/
theorem alike_visitTable {t : TableElements Ruleset}
    (helements : ∀ e ∈ t.elements, ∀ {v w : Value}, v.KeysDistinct → v.Reordered w →
      ∀ place, (e.2.visit p .all v place).Alike (e.2.visit p .all w place))
    (kind : ContainerKind) :
    (visitTable .all subject place t.membership t.elements
      (fun key => (Association.lookup key t.elements).map fun q => q.visit p .all) kind).Alike
    (visitTable .all other place t.membership t.elements
      (fun key => (Association.lookup key t.elements).map fun q => q.visit p .all) kind) := by
  have hpreview := horder.sameOutline.preview_eq
  have hmissing : missingKeys subject t.elements = missingKeys other t.elements := by
    obtain ⟨pairs, hchildren, hother, _⟩ := horder.exists_children
    have hkeys := hother.map Prod.fst
    refine missingKeys_of_perm ?_ t.elements
    simpa [Association.keys, hchildren, Function.comp_def] using hkeys
  refine Alike.both ?_ ?_
  · refine alike_every_children horder hkeys fun key v w hv hvw => ?_
    refine SameTally.stepRelation.inStep_visitMember (fun kind _ => by rw [hpreview]; rfl) ?_
    refine rel_map fun q hq => ?_
    exact helements (key, q) (Association.mem_of_lookup hq) hv hvw _
  · rw [hmissing]
    exact .every (List.forall₂_same.mpr fun key _ => fail_alike hpreview (.missingKey key))

/-- Two subjects meet a list alike if their items meet what it declares alike. -/
theorem alike_visitItems {least : Nat} {most : Option Nat} {visit : Visit}
    (hvisit : ∀ {v w : Value}, v.KeysDistinct → v.Reordered w →
      ∀ place, (visit v place).Alike (visit w place))
    (kind : ContainerKind) :
    (visitItems .all subject place least most visit kind).Alike
      (visitItems .all other place least most visit kind) := by
  have hpreview := horder.sameOutline.preview_eq
  have hother := horder.keysDistinct hkeys
  have hlength : (children subject).length = (children other).length := by
    obtain ⟨pairs, hchildren, hother, _⟩ := horder.exists_children
    rw [hchildren, hother.length_eq, List.length_map, List.length_map]
  refine Alike.both ?_ ?_
  · have hitems {s : Value} (hs : s.KeysDistinct) :
        (visitItemsFrom .all s place most visit kind 0 (children s)).Alike
          (.both .all (boundWalk s place most 0 (children s).length)
            (.every .all (fun child => visit child.2 (place.child kind child.1)) (children s))) :=
      visitItemsFrom_alike (fun child hc => hvisit (hs.of_mem_children hc) (.refl _) _) 0
    refine (hitems hkeys).trans (.trans ?_ (hitems hother).symm)
    rw [hlength]
    refine Alike.both (boundWalk_alike hpreview 0 _) ?_
    exact alike_every_children horder hkeys fun key v w hv hvw => hvisit hv hvw _
  · rw [hlength]
    by_cases hfew : (children other).length < least
    · rw [if_pos hfew, if_pos hfew]
      exact fail_alike hpreview _
    · rw [if_neg hfew, if_neg hfew]
      exact HasEffect.accepted.alike_self

end Children

/-- A ruleset walks two subjects alike that differ in the order of members. -/
theorem Ruleset.alike_visit {p : Provider} (hp : p.OrderBlind) (r : Ruleset) {subject other : Value}
    (hkeys : subject.KeysDistinct) (horder : subject.Reordered other) (place : Location) :
    (r.visit p .all subject place).Alike (r.visit p .all other place) := by
  induction r generalizing subject other place with
  | ruleset r ih =>
    have hpreview := horder.sameOutline.preview_eq
    have hanswers := hp.answersAlike hkeys horder
    rw [r.visit_eq, r.visit_eq]
    by_cases hdeep : maxDepth < place.depth
    · rw [visitNode_of_deep hdeep, visitNode_of_deep hdeep]
      exact .aborted rfl
    refine Effect.SameTally.stepRelation.inStep_visitNode hdeep hdeep
      (.of_eq (hanswers.mainVerdict_eq r) (fun _ _ => rfl) fun s _ => ?_)
      (hanswers.rescuedByValue_eq _) hanswers.null
      (rel_map fun a ha => Effect.SameTally.stepRelation.leadInStep
        (ih a (mem_parts_of_alternative ha) hkeys horder place) _)
      fun told _ => Effect.SameTally.stepRelation.inStep_visitChildren (by rw [hpreview]; rfl)
        (hp.containerKind horder) ?_ ?_
    · rw [Ruleset.turnedDown, Ruleset.turnedDown, hpreview]
      rfl
    · refine rel_map fun t ht kind _ => ?_
      refine alike_visitTable horder hkeys (fun e he v w hv hvw place => ?_) kind
      exact ih e.2 (mem_parts_of_element ht he) hv hvw place
    · refine rel_map fun l hl kind _ => ?_
      refine alike_visitItems horder hkeys (fun hv hvw place => ?_) kind
      exact ih l.itemRules (mem_parts_of_items hl) hv hvw place

/-- The order in which objects list their members does not matter. Where the challenge of a subject
that goes on behind failures comes to a verdict, so does that of the subject with its members, at any
depth, in another order: with the same verdict, in every mode, and with the same failures in another
order. -/
theorem Ruleset.challenge_of_reordered [PatternEngine] (r : Ruleset) {subject other : Value}
    (hkeys : subject.KeysDistinct) (horder : subject.Reordered other) {keyPath : String}
    {verdict : Bool} (h : (r.challenge .standard .all subject keyPath).result = .ok verdict) :
    (r.challenge .standard .all other keyPath).result = .ok verdict ∧
    (r.challenge .standard .all other keyPath).record.Perm
      (r.challenge .standard .all subject keyPath).record ∧
    ∀ mode, (r.challenge .standard mode other keyPath).result = .ok verdict := by
  obtain ⟨e, e', he, he', hsame⟩ :=
    r.alike_visit Provider.standard_orderBlind hkeys horder ⟨0, keyPath⟩
  rw [challenge_of_hasEffect he] at h ⊢
  obtain ⟨hresult, hperm⟩ := hsame.perm h
  obtain ⟨effects, heffects, hmodes⟩ :=
    SameVerdict.stepInvariant.hasEffects_visit Provider.standard r other ⟨0, keyPath⟩
  have hall : (effects .all).result = .ok verdict := by
    rw [(heffects .all).unique he', hresult]
  have hoff := hmodes.all verdict hall
  refine ⟨?_, ?_, fun mode => ?_⟩
  · rw [challenge_of_hasEffect he']
    exact hresult
  · rw [challenge_of_hasEffect he']
    exact hperm
  · rw [challenge_of_hasEffect (heffects mode)]
    cases mode with
    | off => exact hoff
    | first => exact hmodes.first.trans hoff
    | all => exact hall

/-- A map of at most one map with integers under two keys. -/
def Ruleset.onePairOfIntegers : Ruleset :=
  { ofType "loopable" with listItems := some ⟨0, some 1, twoIntegers⟩ }

/-- Of two maps in either order, the second one is too much, and each of them has a text. -/
theorem Ruleset.onePairOfIntegers_reordered :
    let subject := Value.object
      [("p", .object [("a", .string "x"), ("b", .number (.int 1))]),
        ("q", .object [("b", .string "y"), ("a", .number (.int 2))])]
    let other := Value.object
      [("q", .object [("a", .number (.int 2)), ("b", .string "y")]),
        ("p", .object [("b", .number (.int 1)), ("a", .string "x")])]
    (onePairOfIntegers.challenge .standard .all subject "root").result = .ok false ∧
    (onePairOfIntegers.challenge .standard .all other "root").record.Perm
      (onePairOfIntegers.challenge .standard .all subject "root").record ∧
    (onePairOfIntegers.challenge .standard .all other "root").record.length = 3 := by
  intro subject other
  have hkeys : subject.KeysDistinct := by
    simp [subject, Association.keys, Value.KeysDistinct, Value.MembersKeysDistinct]
  have hp : Value.Reordered (.object [("a", .string "x"), ("b", .number (.int 1))])
      (.object [("b", .number (.int 1)), ("a", .string "x")]) :=
    .object [("a", .string "x", .string "x"), ("b", .number (.int 1), .number (.int 1))]
      (by simp [Value.Reordered.refl]) (.swap _ _ _)
  have hq : Value.Reordered (.object [("b", .string "y"), ("a", .number (.int 2))])
      (.object [("a", .number (.int 2)), ("b", .string "y")]) :=
    .object [("b", .string "y", .string "y"), ("a", .number (.int 2), .number (.int 2))]
      (by simp [Value.Reordered.refl]) (.swap _ _ _)
  have horder : subject.Reordered other :=
    .object [("p", _, _), ("q", _, _)] (by simp [hp, hq]) (.swap _ _ _)
  have hfails : (onePairOfIntegers.challenge .standard .all subject "root").result = .ok false :=
    rfl
  obtain ⟨_, hperm, _⟩ := onePairOfIntegers.challenge_of_reordered hkeys horder hfails
  exact ⟨hfails, hperm, hperm.length_eq⟩

end Rulebook
