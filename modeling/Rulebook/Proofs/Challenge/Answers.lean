import Rulebook.Challenge.Visit

/-!
# Answers of providers

What the main rules of a ruleset say about a subject comes from the answers of a provider, and the
provider is asked about no subject that is null. So two providers that answer alike about two subjects,
of which both or none are null, lead to one verdict of the main rules.
-/

namespace Rulebook

open Json (Value)

/-- Two providers answer alike about two subjects, unless these are null. -/
structure Provider.AnswersAlike (p p' : Provider) (v v' : Value) : Prop where
  null : v.isNull = v'.isNull
  check : v.isNull = false → ∀ name args, p.check name v args = p'.check name v' args
  isEmpty : v.isNull = false → p.isEmpty v = p'.isEmpty v'
  isMember : v.isNull = false → ∀ values, p.isMember v values = p'.isMember v' values
  containerKind : v.isNull = false → p.containerKind v = p'.containerKind v'

namespace Provider.AnswersAlike

variable {p p' : Provider} {v v' : Value} (h : p.AnswersAlike p' v v')

include h

/-- Type-checking rules say the same. -/
theorem checkTypes_eq (hnull : v.isNull = false) (told : Option ContainerKind)
    (rules : List Rule) : p.checkTypes v told rules = p'.checkTypes v' told rules := by
  induction rules generalizing told with
  | nil => rfl
  | cons rule rest ih => simp only [checkTypes, h.check hnull, ih]

/-- Pattern rules say the same. -/
theorem patternVerdict_eq (hnull : v.isNull = false) (told : Option ContainerKind)
    (rules : List Rule) : p.patternVerdict v told rules = p'.patternVerdict v' told rules := by
  have hpasses (rule : Rule) : p.passesPattern v rule = p'.passesPattern v' rule := by
    simp only [passesPattern, h.isMember hnull, h.check hnull]
  have hfailed : p.failedPattern? v rules = p'.failedPattern? v' rules := by
    induction rules with
    | nil => rfl
    | cons rule rest ih => simp only [failedPattern?, hpasses, ih]
  simp only [patternVerdict, hfailed]

/-- The main rules of a ruleset say the same. Of null, they only say whether it is allowed. -/
theorem mainVerdict_eq (r : Ruleset) : p.mainVerdict r v = p'.mainVerdict r v' := by
  unfold mainVerdict
  rw [← h.null]
  cases hnull : v.isNull with
  | true => rfl
  | false =>
    simp only [h.checkTypes_eq hnull, h.isEmpty hnull, h.patternVerdict_eq hnull]

/-- The values of a fallback rescue both subjects or none. -/
theorem rescuedByValue_eq (values : Option (List Value)) :
    rescuedByValue p v values = rescuedByValue p' v' values := by
  cases values with
  | none => rfl
  | some values =>
    unfold rescuedByValue
    rw [← h.null]
    cases hnull : v.isNull with
    | true => rfl
    | false => simp only [h.isMember hnull]

end Provider.AnswersAlike

end Rulebook
