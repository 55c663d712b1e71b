import Rulebook.Standard.Check

/-!
# What standard rules find wrong with their arguments

A standard rule that is given as many arguments as it requires, and a pattern that can be compiled,
errs only over the type of its arguments: bounds have to be numbers, in order, and sizes and lengths
have to be counts.
-/

namespace Rulebook

open Json (Value Number)

namespace StandardRule

/-- The rules that compare numbers with their arguments. -/
def boundRules : List StandardRule := [.min, .max, .range]

/-- The rules that compare a count with their argument. -/
def countRules : List StandardRule :=
  [.maxDecimals, .minSize, .maxSize, .exactSize, .unicodeMinLength, .unicodeMaxLength,
    .unicodeExactLength, .minLength, .maxLength, .exactLength]

/-- What may be wrong with the type of an argument. -/
inductive Mistyped (r : StandardRule) (args : List Value) : ArgumentFault → Prop
  | notNumber {i : Nat} {found : Value} (hrule : r ∈ boundRules) (harg : args[i]? = some found)
      (hfound : found.number? = none) : Mistyped r args (.notNumber (i + 1) found)
  | notCount {i : Nat} {found : Value} (hrule : r ∈ countRules) (harg : args[i]? = some found)
      (hfound : found.count? = none) : Mistyped r args (.notCount (i + 1))
  | invertedRange {low high : Number} (hrule : r = .range) (hlow : args[0]? = some (.number low))
      (hhigh : args[1]? = some (.number high)) (hinverted : low.compare high = .gt) :
      Mistyped r args (.invertedRange low high)

end StandardRule

namespace Standard

variable {args : List Value} {i : Nat}

/-- An argument that is there. -/
theorem argument_eq {rule : String} {v : Value} (h : args[i]? = some v) :
    argument rule args i = .ok v := by
  simp only [argument, h]

/-- An argument that is there is read as the count that it is. -/
theorem countArgument_eq {rule : String} {v : Value} {n : Nat} (harg : args[i]? = some v)
    (hcount : v.count? = some n) : countArgument rule args i = .ok n := by
  simp only [countArgument, argument_eq harg, bind, Except.bind, hcount]

/-- An argument that is there is a number, or that is what is wrong with it. -/
theorem numberArgument_cases (rule : String) (hi : i < args.length) :
    (∃ n, args[i]? = some (.number n) ∧ numberArgument rule args i = .ok n) ∨
    ∃ found, args[i]? = some found ∧ found.number? = none ∧
      numberArgument rule args i =
        .error (.badArgument rule (ArgumentFault.notNumber (i + 1) found).message) := by
  have harg : args[i]? = some args[i] := List.getElem?_eq_getElem hi
  generalize args[i] = v at harg
  simp only [numberArgument, argument_eq harg, bind, Except.bind]
  cases v with
  | number n => exact Or.inl ⟨n, harg, rfl⟩
  | _ => exact Or.inr ⟨_, harg, rfl, rfl⟩

/-- An argument that is there is a count, or that is what is wrong with it. -/
theorem countArgument_cases (rule : String) (hi : i < args.length) :
    (∃ n, countArgument rule args i = .ok n) ∨
    ∃ found, args[i]? = some found ∧ found.count? = none ∧
      countArgument rule args i =
        .error (.badArgument rule (ArgumentFault.notCount (i + 1)).message) := by
  have harg : args[i]? = some args[i] := List.getElem?_eq_getElem hi
  generalize args[i] = v at harg
  cases hcount : v.count? with
  | some n => exact Or.inl ⟨n, countArgument_eq harg hcount⟩
  | none =>
    refine Or.inr ⟨v, harg, hcount, ?_⟩
    simp only [countArgument, argument_eq harg, bind, Except.bind, hcount]

end Standard

namespace StandardRule

open Standard

variable {r : StandardRule} {v : Value} {args : List Value} {e : ProviderError}

/-- A rule that reads its arguments errs as the reading of them does. -/
theorem tested_error {answer : Answer Bool} (h : tested answer = .error e) : answer = .error e := by
  cases answer with
  | error e' => simpa [tested, Functor.map, Except.map] using h
  | ok passed => simp [tested, Functor.map, Except.map] at h

/-- A rule that compares one bound errs only if the bound is no number. -/
theorem mistyped_of_bound {answer : Number → Bool} (hrule : r ∈ boundRules)
    (hlength : 1 ≤ args.length)
    (h : tested (do let bound ← numberArgument r.name args 0; return answer bound) = .error e) :
    ∃ fault, e = .badArgument r.name fault.message ∧ r.Mistyped args fault := by
  have herror := tested_error h
  rcases numberArgument_cases r.name hlength with
    ⟨n, _, hn⟩ | ⟨found, harg, hfound, hn⟩
  · simp [hn, bind, Except.bind, pure, Except.pure] at herror
  · have heq : e = .badArgument r.name (ArgumentFault.notNumber 1 found).message := by
      simpa [hn, bind, Except.bind, eq_comm] using herror
    exact ⟨_, heq, .notNumber hrule harg hfound⟩

/-- A rule that compares a count errs only if its argument is no count. -/
theorem mistyped_of_count {answer : Nat → Answer Bool}
    (hanswer : ∀ n, ∃ passed, answer n = .ok passed)
    (hrule : r ∈ countRules) (hlength : 1 ≤ args.length)
    (h : tested (do let n ← countArgument r.name args 0; answer n) = .error e) :
    ∃ fault, e = .badArgument r.name fault.message ∧ r.Mistyped args fault := by
  have herror := tested_error h
  rcases countArgument_cases r.name hlength with ⟨n, hn⟩ | ⟨found, harg, hfound, hn⟩
  · obtain ⟨passed, hpassed⟩ := hanswer n
    simp [hn, hpassed, bind, Except.bind] at herror
  · have heq : e = .badArgument r.name (ArgumentFault.notCount 1).message := by
      simpa [hn, bind, Except.bind, eq_comm] using herror
    exact ⟨_, heq, .notCount hrule harg hfound⟩

/-- A rule for a range errs only if a bound is no number or the bounds are inverted. -/
theorem mistyped_of_range (hlength : 2 ≤ args.length)
    (h : tested (inRange v args) = .error e) :
    ∃ fault, e = .badArgument range.name fault.message ∧ range.Mistyped args fault := by
  have hrule : range ∈ boundRules := by decide
  have herror := tested_error h
  unfold inRange at herror
  rcases numberArgument_cases "range" (by omega : 0 < args.length) with
    ⟨low, hlow, hl⟩ | ⟨found, harg, hfound, hl⟩
  · rcases numberArgument_cases "range" (by omega : 1 < args.length) with
      ⟨high, hhigh, hh⟩ | ⟨found, harg, hfound, hh⟩
    · by_cases hinverted : low.compare high = .gt
      · have heq : e = .badArgument "range" (ArgumentFault.invertedRange low high).message := by
          simpa [hl, hh, hinverted, bind, Except.bind, eq_comm] using herror
        exact ⟨_, heq, .invertedRange rfl hlow hhigh hinverted⟩
      · simp [hl, hh, hinverted, bind, Except.bind, pure, Except.pure] at herror
    · have heq : e = .badArgument "range" (ArgumentFault.notNumber 2 found).message := by
        simpa [hl, hh, bind, Except.bind, eq_comm] using herror
      exact ⟨_, heq, .notNumber hrule harg hfound⟩
  · have heq : e = .badArgument "range" (ArgumentFault.notNumber 1 found).message := by
      simpa [hl, bind, Except.bind, eq_comm] using herror
    exact ⟨_, heq, .notNumber hrule harg hfound⟩

/-- A pattern that can be compiled once can be compiled again. -/
theorem matchesPattern_isOk [PatternEngine] (hprepared : regex.prepare args = .ok ()) :
    ∃ passed, matchesPattern v args = .ok passed := by
  unfold prepare at hprepared
  cases hpattern : patternArgument args with
  | error e => simp [hpattern, bind, Except.bind] at hprepared
  | ok p => exact ⟨_, by simp [matchesPattern, hpattern, bind, Except.bind, pure, Except.pure]; rfl⟩

/-- A standard rule with enough arguments that it was prepared for errs only over their type. -/
theorem mistyped_of_check_error [PatternEngine] (hlength : r.descriptor.required ≤ args.length)
    (hprepared : r.prepare args = .ok ()) (h : r.check v args = .error e) :
    ∃ fault, e = .badArgument r.name fault.message ∧ r.Mistyped args fault := by
  have hmeasured {measure : Value → Option Nat} {relation : Nat → Nat → Bool} :
      ∀ n, ∃ passed, (return (measure v).any fun m => relation m n : Answer Bool) = .ok passed :=
    fun n => ⟨_, rfl⟩
  cases r with
  | min | max => exact mistyped_of_bound (by decide) hlength h
  | range => exact mistyped_of_range hlength h
  | maxDecimals =>
    refine mistyped_of_count (fun n => ?_) (by decide) hlength h
    cases v <;> exact ⟨_, rfl⟩
  | minSize | maxSize | exactSize | unicodeMinLength | unicodeMaxLength | unicodeExactLength
  | minLength | maxLength | exactLength =>
    exact mistyped_of_count hmeasured (by decide) hlength h
  | regex =>
    obtain ⟨passed, hpassed⟩ := matchesPattern_isOk (v := v) hprepared
    have herror := tested_error h
    rw [hpassed] at herror
    cases herror
  | _ => cases h

end StandardRule

end Rulebook
