import Rulebook.Proofs.Challenge.Answers
import Rulebook.Proofs.Challenge.FirstFailure
import Rulebook.Proofs.Challenge.InStep

/-!
# Null and the provider

A subject that is null is judged by the flag of a ruleset and by its fallback, and has no children. So
a provider is never asked about null, wherever in a subject it is: two providers that answer alike about
all other subjects lead to one challenge.
-/

namespace Rulebook

open Json (Value)

/-- Two providers answer alike about every subject that is not null. About null each may say what it
likes, and nothing is asked of their descriptions of rules. -/
structure Provider.AgreesOffNull (p q : Provider) : Prop where
  check : ∀ {v : Value}, v.isNull = false → ∀ name args, p.check name v args = q.check name v args
  isEmpty : ∀ {v : Value}, v.isNull = false → p.isEmpty v = q.isEmpty v
  isMember : ∀ {v : Value}, v.isNull = false → ∀ values, p.isMember v values = q.isMember v values
  containerKind : ∀ {v : Value}, v.isNull = false → p.containerKind v = q.containerKind v

/-- Providers that agree off null answer alike about each subject. -/
theorem Provider.AgreesOffNull.answersAlike {p q : Provider} (h : p.AgreesOffNull q) (v : Value) :
    p.AnswersAlike q v v where
  null := rfl
  check := h.check
  isEmpty := h.isEmpty
  isMember := h.isMember
  containerKind := h.containerKind

/-- Steps of equal walks are equal. -/
theorem Effect.eq_stepRelation (mode : RecordMode) : StepRelation mode Eq where
  accepted := rfl
  both := by rintro a _ b _ rfl rfl; rfl
  branch := by rintro a _ b _ c _ rfl rfl rfl; rfl
  orElse := by rintro a _ b _ rfl rfl; rfl

namespace Ruleset

/-- Under providers that agree off null, a subject is walked with one effect. -/
theorem inStep_visit_of_agreesOffNull {p q : Provider} (h : p.AgreesOffNull q) (mode : RecordMode)
    (r : Ruleset) (subject : Value) (place : Location) :
    Walk.InStep Eq (r.visit p mode subject place) (r.visit q mode subject place) := by
  have hR := Effect.eq_stepRelation mode
  induction r generalizing subject place with
  | ruleset r ih =>
    have hanswers := h.answersAlike subject
    rw [r.visit_eq, r.visit_eq]
    by_cases hdeep : maxDepth < place.depth
    · rw [visitNode_of_deep hdeep, visitNode_of_deep hdeep]
      exact .aborted rfl
    refine hR.inStep_visitNode hdeep hdeep
      (.of_eq (hanswers.mainVerdict_eq r) (fun _ _ => rfl) fun _ _ => rfl)
      (hanswers.rescuedByValue_eq _) rfl ?_ ?_
    · exact rel_map fun a ha => hR.leadInStep (ih a (mem_parts_of_alternative ha) _ _) _
    · -- the kind of a subject is asked for behind its main rules, which null does not pass
      rintro told ⟨hnull, _⟩
      refine hR.inStep_visitChildren rfl (hanswers.containerKind hnull) ?_ ?_
      · refine rel_map fun t ht kind _ => ?_
        refine hR.inStep_visitTable (fun _ _ => rfl) rfl rfl fun child _ => rel_map fun e he => ?_
        exact ih e (mem_parts_of_element ht (Association.mem_of_lookup he)) _ _
      · refine rel_map fun l hl kind _ => ?_
        exact hR.inStep_visitItems (fun _ _ => rfl) rfl
          (fun child _ => ih l.itemRules (mem_parts_of_items hl) _ _) _ _

/-- Null never reaches the provider. Under two providers that answer alike about every subject but
null, and about null as they like, each challenge comes to one result and leaves one record. -/
theorem challenge_eq_of_agreesOffNull {p q : Provider} (h : p.AgreesOffNull q) (mode : RecordMode)
    (r : Ruleset) (subject : Value) (keyPath : String) :
    r.challenge p mode subject keyPath = r.challenge q mode subject keyPath := by
  obtain ⟨e, _, hp, hq, rfl⟩ := r.inStep_visit_of_agreesOffNull h mode subject ⟨0, keyPath⟩
  rw [challenge_of_hasEffect hp, challenge_of_hasEffect hq]

end Ruleset

/-- The standard provider, but of null it says that it is a list and one of any values, and it cannot
run a rule on it. -/
def Provider.upsetByNull : Provider where
  descriptor := standard.descriptor
  renamed := standard.renamed
  typeGuard := standard.typeGuard
  containerGuard := standard.containerGuard
  isEmpty v := !v.isNull && standard.isEmpty v
  isMember v values := v.isNull || standard.isMember v values
  containerKind v := if v.isNull then some .list else standard.containerKind v
  prepare := standard.prepare
  check name v args :=
    if v.isNull then .error (.unknownRule name) else standard.check name v args

namespace Ruleset

/-- Integers under two keys, or a list of integers that lets the text x, booleans and null pass as
well. -/
def integersOrTexts : Ruleset :=
  { ofType "loopable" with
    listItems := some ⟨0, none,
      { ofType "integer" with
        emptiness := some .nonEmpty
        alternativeEnum := some [.string "x"]
        alternativeRuleSet := some { ofType "boolean" with nullable := true } }⟩
    tableElements := some ⟨[("a", ofType "integer"), ("b", ofType "integer")], .exclusive⟩ }

/-- A provider that is upset by null finds wrong with two nulls, an integer and a text what the standard
one does: at the table one null and two keys, and at the list the text alone. -/
theorem integersOrTexts_upsetByNull :
    let subject := Value.object
      [("a", .null), ("b", .number (.int 1)), ("c", .null), ("d", .string "y")]
    let plain := integersOrTexts.challenge .standard .all subject "root"
    let upset := integersOrTexts.challenge .upsetByNull .all subject "root"
    Provider.standard.AgreesOffNull .upsetByNull ∧
    Provider.standard.check "integer" .null [] ≠ Provider.upsetByNull.check "integer" .null [] ∧
    upset = plain ∧ plain.result = .ok false ∧ plain.record.length = 4 := by
  intro subject plain upset
  have hagrees : Provider.standard.AgreesOffNull .upsetByNull := by
    constructor <;> intro v hnull <;> simp [Provider.upsetByNull, hnull]
  refine ⟨hagrees, ?_, (challenge_eq_of_agreesOffNull hagrees _ _ _ _).symm, rfl, rfl⟩
  intro h
  cases h

end Ruleset

end Rulebook
