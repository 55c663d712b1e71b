import Rulebook.Proofs.Challenge.MainRules
import Rulebook.Proofs.Description.Steps

/-!
# Guards of the standard rules

A guard is found by a tag alone, and no test looks at tags. What joins them are the kinds of values:
a guard lets pass every value of a kind that its tag covers, a tag is covered by that of its guard,
and a pattern rule or a list of values is met by values of a kind that its tag covers only.
-/

namespace Rulebook

open Json (Value Number)

/-- The kind of a value, as a tag. -/
def Json.Value.kindTag : Value → TypeTag
  | .null => .null
  | .bool _ => .boolean
  | .number (.int _) => .integer
  | .number (.float _) => .float
  | .string _ => .string
  | .array _ => .list
  | .object _ => .map

/-- What is covered by a tag is covered by every tag that covers it. -/
theorem TypeTag.contains_trans {a b c : TypeTag} (hab : a.contains b = true)
    (hbc : b.contains c = true) : a.contains c = true := by
  simp only [contains, beq_iff_eq] at hab hbc ⊢
  rw [← hbc, ← BitVec.and_assoc, hab]

namespace StandardRule

/-- A value passes a rule with some arguments. -/
def Passes [PatternEngine] (r : StandardRule) (v : Value) (args : List Value) : Prop :=
  ∃ verdict, r.check v args = .ok verdict ∧ verdict.passed = true

variable {v : Value} {args : List Value}

/-! ## Guards by kind -/

/-- A guard answers, and lets pass every value of a kind that its tag covers. -/
theorem check_of_mem_guards [PatternEngine] {covered : TypeTag} {guard : StandardRule}
    (h : (covered, guard) ∈ guards) (v : Value) :
    ∃ verdict, guard.check v [] = .ok verdict ∧
      (covered.contains v.kindTag = true → verdict.passed = true) := by
  simp only [guards, List.mem_cons, Prod.mk.injEq, List.not_mem_nil, or_false] at h
  -- each guard is asked about each kind: its tag does not cover it, or its test lets it pass
  rcases h with ⟨rfl, rfl⟩ | ⟨rfl, rfl⟩ | ⟨rfl, rfl⟩ | ⟨rfl, rfl⟩ | ⟨rfl, rfl⟩ | ⟨rfl, rfl⟩ |
    ⟨rfl, rfl⟩ | ⟨rfl, rfl⟩ | ⟨rfl, rfl⟩ | ⟨rfl, rfl⟩ | ⟨rfl, rfl⟩ | ⟨rfl, rfl⟩ | ⟨rfl, rfl⟩ <;>
    refine ⟨_, rfl, fun hkind => ?_⟩ <;>
    rcases v with _ | _ | (_ | _) | _ | _ | _ <;>
    simp only [Value.kindTag] at hkind <;>
    first
      | exact absurd hkind (by decide)
      | rfl

/-- The guard of a tag lets pass every value of a kind that the tag covers. -/
theorem passes_of_guard? [PatternEngine] {tag : TypeTag} {guard : StandardRule}
    (h : guard? tag = some guard) (hkind : tag.contains v.kindTag = true) : guard.Passes v [] := by
  obtain ⟨covered, hguard, hcovers⟩ := mem_guards_of_guard? h
  obtain ⟨verdict, hcheck, hpassed⟩ := check_of_mem_guards hguard v
  exact ⟨verdict, hcheck, hpassed (TypeTag.contains_trans hcovers hkind)⟩

/-! ## Pattern rules by kind -/

open Standard

/-- A rule without arguments lets pass what its test does. -/
theorem test_of_plain {test : Value → Bool} {verdict : Verdict}
    (h : plain test v = .ok verdict) (hpassed : verdict.passed = true) : test v = true := by
  obtain rfl := Except.ok.inj h
  cases htest : test v with
  | true => rfl
  | false => simp [Verdict.of, htest, Verdict.passed] at hpassed

/-- A subject passes a rule without arguments if the test of the rule says so. -/
theorem passes_iff_of_plain [PatternEngine] {r : StandardRule} {test : Value → Bool}
    (hr : r.check v args = plain test v) : r.Passes v args ↔ test v = true := by
  constructor
  · rintro ⟨verdict, hcheck, hpassed⟩
    exact test_of_plain (hr.symm.trans hcheck) hpassed
  · intro htest
    exact ⟨_, hr, by rw [htest]; rfl⟩

/-- A rule that reads its arguments lets pass what its answer does. -/
theorem answer_of_tested {answer : Answer Bool} {verdict : Verdict}
    (h : tested answer = .ok verdict) (hpassed : verdict.passed = true) : answer = .ok true := by
  cases answer with
  | error e => cases h
  | ok passed =>
    obtain rfl := Except.ok.inj h
    cases passed with
    | true => rfl
    | false => simp [Verdict.of, Verdict.passed] at hpassed

/-- A subject passes a rule that reads its arguments if the answer of the rule says so. -/
theorem passes_iff_of_tested [PatternEngine] {r : StandardRule} {answer : Answer Bool}
    (hr : r.check v args = tested answer) : r.Passes v args ↔ answer = .ok true := by
  constructor
  · rintro ⟨verdict, hcheck, hpassed⟩
    exact answer_of_tested (hr.symm.trans hcheck) hpassed
  · intro hanswer
    exact ⟨.pass, by rw [hr, hanswer]; rfl, rfl⟩

end StandardRule

/-! ## Kinds of the values that pass -/

namespace Standard

variable {v : Value} {args : List Value}

/-- A positive value is a number. -/
theorem isNumber_of_isPositive (h : isPositive v = true) : isNumber v = true := by
  cases v <;> first | rfl | cases h

/-- A value that is not negative is a number. -/
theorem isNumber_of_isNonNegative (h : isNonNegative v = true) : isNumber v = true := by
  cases v <;> first | rfl | cases h

/-- A negative value is a number. -/
theorem isNumber_of_isNegative (h : isNegative v = true) : isNumber v = true := by
  cases v <;> first | rfl | cases h

/-- A value that is compared with a lower bound is a number. -/
theorem isNumber_of_isAtLeast {bound : Number} (h : isAtLeast bound v = true) :
    isNumber v = true := by
  cases v <;> first | rfl | cases h

/-- A value that is compared with an upper bound is a number. -/
theorem isNumber_of_isAtMost {bound : Number} (h : isAtMost bound v = true) :
    isNumber v = true := by
  cases v <;> first | rfl | cases h

/-- A value that meets its lower bound is a number. -/
theorem isNumber_of_minimum (h : minimum v args = .ok true) : isNumber v = true := by
  obtain ⟨bound, _, hbound⟩ := bind_ok_iff.mp h
  exact isNumber_of_isAtLeast (Except.ok.inj hbound)

/-- A value that meets its upper bound is a number. -/
theorem isNumber_of_maximum (h : maximum v args = .ok true) : isNumber v = true := by
  obtain ⟨bound, _, hbound⟩ := bind_ok_iff.mp h
  exact isNumber_of_isAtMost (Except.ok.inj hbound)

/-- A value between its bounds is a number. -/
theorem isNumber_of_inRange (h : inRange v args = .ok true) : isNumber v = true := by
  obtain ⟨low, _, h⟩ := bind_ok_iff.mp h
  obtain ⟨high, _, h⟩ := bind_ok_iff.mp h
  split at h
  · cases h
  · exact isNumber_of_isAtLeast ((Bool.and_eq_true_iff.mp (Except.ok.inj h)).1)

/-- A value whose decimal places are counted is a number. -/
theorem isNumber_of_withinDecimals (h : withinDecimals v args = .ok true) :
    isNumber v = true := by
  obtain ⟨limit, _, h⟩ := bind_ok_iff.mp h
  cases v <;> first | rfl | cases h

/-- A value of some width is an integer. -/
theorem isInteger_of_fitsSigned {bits : Nat} (h : fitsSigned bits v = true) :
    isInteger v = true := by
  rcases v with _ | _ | (_ | _) | _ | _ | _ <;> first | rfl | cases h

/-- A value that passes a rule about a measure can be measured. -/
theorem isSome_of_measured {rule : String} {measure : Value → Option Nat}
    {relation : Nat → Nat → Bool} (h : measured rule measure relation v args = .ok true) :
    (measure v).isSome = true := by
  obtain ⟨n, _, h⟩ := bind_ok_iff.mp h
  have hany : ((measure v).any fun m => relation m n) = true := Except.ok.inj h
  cases hmeasure : measure v with
  | none => simp [hmeasure] at hany
  | some m => rfl

/-- A value that matches a pattern is a text or a number. -/
theorem isStringable_of_matchesPattern [PatternEngine] (h : matchesPattern v args = .ok true) :
    isStringable v = true := by
  obtain ⟨p, _, h⟩ := bind_ok_iff.mp h
  cases v <;> first | rfl | cases h

/-- A value with a size is a container. -/
theorem isContainer_of_isSome_size? (h : (size? v).isSome = true) : v.isContainer = true := by
  cases v <;> first | rfl | cases h

/-- A value with code points is a text. -/
theorem isString_of_isSome_codePoints? (h : (codePoints? v).isSome = true) :
    isString v = true := by
  cases v <;> first | rfl | cases h

/-- A value with a length in bytes is a text. -/
theorem isString_of_isSome_byteLength? (h : (byteLength? v).isSome = true) :
    isString v = true := by
  cases v <;> first | rfl | cases h

/-- A value whose characters are tested is a text. -/
theorem isString_of_onText {test : List Char → Bool} (h : onText test v = true) :
    isString v = true := by
  cases v <;> first | rfl | cases h

/-- A value of an enumeration is a scalar. -/
theorem isScalar_of_enumValueFault? (h : enumValueFault? false v = none) :
    isScalar v = true := by
  cases v <;> first | rfl | cases h

end Standard

/-- The tests for values of the kinds that a tag covers. -/
inductive TypeTag.TestedBy : TypeTag → (Value → Bool) → Prop
  | number : TestedBy .number Standard.isNumber
  | integer : TestedBy .integer Standard.isInteger
  | boolean : TestedBy .boolean Standard.isBoolean
  | scalar : TestedBy .scalar Standard.isScalar
  | string : TestedBy .string Standard.isString
  | stringableScalar : TestedBy .stringableScalar Standard.isStringable
  | container : TestedBy .container Value.isContainer

/-- What passes the test for a tag is of a kind that the tag covers. -/
theorem TypeTag.TestedBy.contains {tag : TypeTag} {test : Value → Bool} (h : tag.TestedBy test)
    {v : Value} (hv : test v = true) : tag.contains v.kindTag = true := by
  cases h <;> rcases v with _ | _ | (_ | _) | _ | _ | _ <;> simp only [Value.kindTag] <;>
    first | decide | exact absurd hv Bool.false_ne_true

namespace StandardRule

open Standard
open TypeTag (TestedBy)

variable {v : Value} {args : List Value}

/-- A value that passes a pattern rule is of a kind that the tag of the rule covers. -/
theorem contains_kindTag_of_passes [PatternEngine] {r : StandardRule}
    (hr : r.descriptor.isTypeChecking = false)
    (h : r.Passes v args) : r.descriptor.semanticType.contains v.kindTag = true := by
  obtain ⟨verdict, hcheck, hpassed⟩ := h
  cases r with
  | boolean | number | integer | float | string | stringableScalar | scalar | numeric | digital
  | decimal | loopable | indexedArray | keyedArray => cases hr
  | positive =>
    exact TestedBy.number.contains (isNumber_of_isPositive (test_of_plain hcheck hpassed))
  | nonNegative =>
    exact TestedBy.number.contains (isNumber_of_isNonNegative (test_of_plain hcheck hpassed))
  | negative =>
    exact TestedBy.number.contains (isNumber_of_isNegative (test_of_plain hcheck hpassed))
  | min => exact TestedBy.number.contains (isNumber_of_minimum (answer_of_tested hcheck hpassed))
  | max => exact TestedBy.number.contains (isNumber_of_maximum (answer_of_tested hcheck hpassed))
  | range => exact TestedBy.number.contains (isNumber_of_inRange (answer_of_tested hcheck hpassed))
  | maxDecimals =>
    exact TestedBy.number.contains (isNumber_of_withinDecimals (answer_of_tested hcheck hpassed))
  | bit32 | bit64 =>
    exact TestedBy.integer.contains (isInteger_of_fitsSigned (test_of_plain hcheck hpassed))
  | minSize | maxSize | exactSize =>
    have hsize := isSome_of_measured (answer_of_tested hcheck hpassed)
    exact TestedBy.container.contains (isContainer_of_isSome_size? hsize)
  | regex =>
    have hmatch := answer_of_tested hcheck hpassed
    exact TestedBy.stringableScalar.contains (isStringable_of_matchesPattern hmatch)
  | unicodeMinLength | unicodeMaxLength | unicodeExactLength =>
    have hlength := isSome_of_measured (answer_of_tested hcheck hpassed)
    exact TestedBy.string.contains (isString_of_isSome_codePoints? hlength)
  | minLength | maxLength | exactLength =>
    have hlength := isSome_of_measured (answer_of_tested hcheck hpassed)
    exact TestedBy.string.contains (isString_of_isSome_byteLength? hlength)
  | _ => exact TestedBy.string.contains (isString_of_onText (test_of_plain hcheck hpassed))

/-- The tag of a rule has a guard. -/
theorem exists_guard? (r : StandardRule) :
    ∃ guard, guard? r.descriptor.semanticType = some guard := by
  cases r <;> exact ⟨_, rfl⟩

/-- A value that passes a pattern rule passes the guard for the tag of the rule. -/
theorem guard_passes_of_passes [PatternEngine] {r : StandardRule}
    (hr : r.descriptor.isTypeChecking = false) (h : r.Passes v args) :
    ∃ guard, guard? r.descriptor.semanticType = some guard ∧ guard.Passes v [] := by
  obtain ⟨guard, hguard⟩ := exists_guard? r
  exact ⟨guard, hguard, passes_of_guard? hguard (contains_kindTag_of_passes hr h)⟩

end StandardRule

/-! ## Lists of values by kind -/

/-- Equal values are of one kind. -/
theorem Json.Value.kindTag_of_same {v w : Value} (h : w.same v = true) : w.kindTag = v.kindTag := by
  rcases v with _ | _ | (_ | _) | _ | _ | _ <;> rcases w with _ | _ | (_ | _) | _ | _ | _ <;>
    first
      | rfl
      | simp [Value.same, Number.same] at h

/-- A listed value is of a kind that the tag of the list covers. -/
theorem enumTag_contains {values : List Value}
    (hscalar : ∀ w ∈ values, enumValueFault? false w = none) {v : Value} (hv : v ∈ values) :
    (enumTag values).contains v.kindTag = true := by
  have hall {test : Value → Bool} (h : values.all test = true) : test v = true :=
    List.all_eq_true.mp h v hv
  unfold enumTag
  split
  · next h =>
    have hinteger : Standard.isInteger v = true := by cases v <;> exact hall h
    exact TypeTag.TestedBy.integer.contains hinteger
  split
  · next h =>
    have hsome := hall h
    have hstring : Standard.isString v = true := by cases v <;> first | rfl | cases hsome
    exact TypeTag.TestedBy.string.contains hstring
  split
  · next h =>
    have hsome := hall h
    have hboolean : Standard.isBoolean v = true := by cases v <;> first | rfl | cases hsome
    exact TypeTag.TestedBy.boolean.contains hboolean
  split
  · next h =>
    have hsome := hall h
    have hnumber : Standard.isNumber v = true := by cases v <;> first | rfl | cases hsome
    exact TypeTag.TestedBy.number.contains hnumber
  · exact TypeTag.TestedBy.scalar.contains (Standard.isScalar_of_enumValueFault? (hscalar v hv))

/-- The tag of a list of values has a guard. -/
theorem exists_guard?_enumTag (values : List Value) :
    ∃ guard, StandardRule.guard? (enumTag values) = some guard := by
  unfold enumTag
  repeat' split
  all_goals exact ⟨_, rfl⟩

/-- A value that is among listed values passes the guard for the tag of the list. -/
theorem guard_passes_of_memberOf [PatternEngine] {values : List Value} {v : Value}
    (hscalar : ∀ w ∈ values, enumValueFault? false w = none) (h : v.memberOf values = true) :
    ∃ guard, StandardRule.guard? (enumTag values) = some guard ∧ guard.Passes v [] := by
  obtain ⟨guard, hguard⟩ := exists_guard?_enumTag values
  obtain ⟨w, hw, hsame⟩ := List.any_eq_true.mp h
  refine ⟨guard, hguard, StandardRule.passes_of_guard? hguard ?_⟩
  rw [← Json.Value.kindTag_of_same hsame]
  exact enumTag_contains hscalar hw

end Rulebook
