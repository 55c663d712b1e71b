import Rulebook.Proofs.Challenge.InStep
import Rulebook.Proofs.Ruleset.Plain

/-!
# Former names and the challenge

Rules are run by their current names. Leaving out their former ones changes the rules that failures
tell of, and never what a challenge comes to.
-/

namespace Rulebook

open Json (Value)

/-- A main rule without its former names. -/
def MainRule.plain : MainRule → MainRule
  | .declared q => .declared q.plain
  | .nonEmpty => .nonEmpty

/-- A shortfall that tells of a rule without its former names. -/
def Shortfall.plain : Shortfall → Shortfall
  | .null => .null
  | .rule failed => .rule failed.plain

/-- A verdict that tells of a rule without its former names. -/
def MainVerdict.plain : MainVerdict → MainVerdict
  | .settled => .settled
  | .passed told => .passed told
  | .failed shortfall => .failed shortfall.plain

/-! ## Main rules -/

namespace Provider

variable (p : Provider) (subject : Value)

/-- Type-checking rules without former names are run alike. -/
theorem checkTypes_plain (told : Option ContainerKind) (rules : List Rule) :
    p.checkTypes subject told (rules.map Rule.plain) =
      (p.checkTypes subject told rules).map (Except.mapError Rule.plain) := by
  induction rules generalizing told with
  | nil => rfl
  | cons q rest ih =>
    simp only [List.map_cons, checkTypes, Rule.plain]
    cases p.check q.name subject q.arguments.values with
    | error e => rfl
    | ok verdict =>
      cases hpassed : verdict.passed with
      | true => simpa only [hpassed, if_true] using ih _
      | false => simp [hpassed, Except.map, Rule.plain]

/-- Pattern rules without former names are run alike. -/
theorem failedPattern?_plain (rules : List Rule) :
    p.failedPattern? subject (rules.map Rule.plain) =
      (p.failedPattern? subject rules).map (Option.map Rule.plain) := by
  induction rules with
  | nil => rfl
  | cons q rest ih =>
    have hpasses : p.passesPattern subject q.plain = p.passesPattern subject q := rfl
    simp only [List.map_cons, failedPattern?, hpasses]
    cases p.passesPattern subject q with
    | error e => rfl
    | ok passed =>
      cases passed with
      | true => exact ih
      | false => rfl

/-- The verdict of pattern rules without former names. -/
theorem patternVerdict_plain (told : Option ContainerKind) (rules : List Rule) :
    p.patternVerdict subject told (rules.map Rule.plain) =
      (p.patternVerdict subject told rules).map MainVerdict.plain := by
  rw [patternVerdict, patternVerdict, failedPattern?_plain]
  cases p.failedPattern? subject rules with
  | error e => rfl
  | ok failed => cases failed <;> rfl

/-- The main rules of a ruleset without former names give the same answer. -/
theorem mainVerdict_plainWith (r : Ruleset) (back : Ruleset → Ruleset) :
    p.mainVerdict (r.plainWith back) subject =
      (p.mainVerdict r subject).map MainVerdict.plain := by
  have hpatterns (told : Option ContainerKind) := p.patternVerdict_plain subject told r.patternRules
  simp only [mainVerdict, Ruleset.plainWith, checkTypes_plain]
  cases subject.isNull with
  | true =>
    change Except.ok (if r.nullable then _ else _) =
      (Except.ok (if r.nullable then _ else _)).map MainVerdict.plain
    cases r.nullable <;> rfl
  | false =>
    simp only [Bool.false_eq_true, if_false]
    cases p.checkTypes subject none r.typeRules with
    | error e => rfl
    | ok checked =>
      cases checked with
      | error failed => rfl
      | ok told =>
        cases r.emptiness with
        | none => exact hpatterns told
        | some emptiness =>
          cases emptiness <;> cases p.isEmpty subject <;> first
            | exact hpatterns told
            | rfl

end Provider

/-! ## The walk -/

/-- Two effects have one result. -/
def Effect.SameResult (e e' : Effect) : Prop := e.result = e'.result

/-- The result of a step depends on the results of its parts alone. -/
theorem Effect.SameResult.stepRelation (mode : RecordMode) : StepRelation mode SameResult where
  accepted := rfl
  both {a a' b b'} ha hb := by
    have ha : a.result = a'.result := ha
    have hb : b.result = b'.result := hb
    unfold SameResult both
    rw [ha, hb]
    cases hresult : a'.result with
    | error e => simp [ha, hresult]
    | ok x => cases x <;> cases mode.goesOn <;> simp [ha, hresult]
  branch ha hb hc := by
    rw [SameResult, result_branch, result_branch, ha, hb, hc]
  orElse ha hb := by
    rw [SameResult, result_orElse, result_orElse, ha, hb]

namespace Ruleset

/-- A plain form is optional if the ruleset is. -/
theorem optional_plain (r : Ruleset) : r.plain.optional = r.optional := by
  rw [plain_eq]
  rfl

/-- The plain forms of declared elements lack the same keys. -/
theorem missingKeys_plain (subject : Value) (t : TableElements Ruleset) :
    missingKeys subject (t.map plain).elements = missingKeys subject t.elements := by
  simp only [missingKeys, TableElements.map, List.filter_map, List.map_map, Function.comp_def,
    optional_plain]

/-- The walk of a ruleset without former names comes to the same result. -/
theorem inStep_visit_plain (p : Provider) (mode : RecordMode) (r : Ruleset) (subject : Value)
    (place : Location) :
    Walk.InStep Effect.SameResult (r.plain.visit p mode subject place)
      (r.visit p mode subject place) := by
  have hR := Effect.SameResult.stepRelation mode
  induction r generalizing subject place with
  | ruleset r ih =>
    rw [visit_eq, visit_eq, plain_eq]
    by_cases hdeep : maxDepth < place.depth
    · rw [visitNode_of_deep hdeep, visitNode_of_deep hdeep]
      exact .aborted rfl
    refine hR.inStep_visitNode hdeep hdeep ?_ rfl rfl ?_
      fun told _ => hR.inStep_visitChildren rfl rfl ?_ ?_
    · rw [p.mainVerdict_plainWith]
      cases p.mainVerdict r subject with
      | error e => exact .error rfl
      | ok verdict =>
        cases verdict with
        | settled => exact .settled
        | passed told => exact .passed told
        | failed shortfall => exact .failed rfl
    · simp only [alternativeWalk, plainWith, Option.map_map]
      exact rel_map fun a ha => hR.leadInStep (ih a (mem_parts_of_alternative ha) _ _) _
    · simp only [tableWalk, plainWith, Option.map_map]
      refine rel_map fun t ht kind _ => ?_
      refine hR.inStep_visitTable (fun _ _ => rfl) rfl (missingKeys_plain subject t)
        fun child _ => ?_
      simp only [TableElements.map, Association.lookup_map, Option.map_map]
      refine rel_map fun q hq => ?_
      exact ih q (mem_parts_of_element ht (Association.mem_of_lookup hq)) _ _
    · simp only [itemsWalk, plainWith, Option.map_map]
      exact rel_map fun l hl kind _ => hR.inStep_visitItems (fun _ _ => rfl) rfl
        (fun child _ => ih l.itemRules (mem_parts_of_items hl) _ _) _ _

/-- A challenge comes to the same result with a ruleset and with its plain form. -/
theorem result_challenge_plain (p : Provider) (mode : RecordMode) (r : Ruleset) (subject : Value)
    (keyPath : String) :
    (r.plain.challenge p mode subject keyPath).result =
      (r.challenge p mode subject keyPath).result := by
  obtain ⟨e, e', he, he', hsame⟩ := r.inStep_visit_plain p mode subject ⟨0, keyPath⟩
  rw [challenge_of_hasEffect he, challenge_of_hasEffect he']
  exact hsame

end Ruleset

end Rulebook
