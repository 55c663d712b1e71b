import Rulebook.Proofs.Challenge.Builds
import Rulebook.Proofs.Challenge.Depth
import Rulebook.Proofs.Standard.ArgumentFaults

/-!
# Challenges with standard rules

The reading of a description checks that its rules are there, that they have as many arguments as
they need and that their patterns can be compiled. What is left to go wrong in a challenge is the type of
the arguments, which are not looked at before a subject is, and that a build which checks its sums stops over
a list that allows the greatest number of items.
-/

namespace Rulebook

open Json (Value)

namespace StandardRule

/-- The standard rule of a rule that is described. -/
theorem exists_of_fitsDescriptor [PatternEngine] {rule : Rule} {d : Descriptor}
    (h : rule.FitsDescriptor .standard d) :
    ∃ s : StandardRule, ofName? rule.name = some s ∧
      s.descriptor.required ≤ rule.arguments.values.length ∧
      s.prepare rule.arguments.values = .ok () := by
  obtain ⟨s, hs, rfl⟩ := Option.map_eq_some_iff.mp h.described
  refine ⟨s, hs, ?_, ?_⟩
  · have hfits := h.arguments
    cases harguments : rule.arguments with
    | flag =>
      rw [harguments] at hfits
      exact Nat.le_of_eq hfits
    | list values =>
      rw [harguments] at hfits
      exact hfits.1
  · simpa only [Provider.standard, hs] using h.prepared

end StandardRule

namespace Ruleset

variable {r : Ruleset}

/-- A rule that a sound ruleset runs errs only over the type of its arguments. -/
theorem Sound.mistyped_of_check_error [PatternEngine] (h : r.Sound .standard) {rule : Rule}
    {v : Value} {e : ProviderError} (hrule : r.Runs rule)
    (hcheck : Provider.standard.check rule.name v rule.arguments.values = .error e) :
    ∃ (s : StandardRule) (fault : ArgumentFault), rule.name = s.name ∧
      e = .badArgument s.name fault.message ∧ s.Mistyped rule.arguments.values fault := by
  have hfits : ∃ d, rule.FitsDescriptor .standard d := by
    rcases hrule with htype | ⟨hpattern, hkind⟩
    · obtain ⟨_, d, _, hfits⟩ := h.typeRules rule htype
      exact ⟨d, hfits⟩
    · rcases h.patternRules rule hpattern with ⟨_, d, _, hfits⟩ | ⟨henumeration, _⟩
      · exact ⟨d, hfits⟩
      · exact absurd henumeration hkind
  obtain ⟨d, hfits⟩ := hfits
  obtain ⟨s, hs, hlength, hprepared⟩ := StandardRule.exists_of_fitsDescriptor hfits
  have herror : s.check v rule.arguments.values = .error e := by
    simpa only [Provider.standard, hs] using hcheck
  obtain ⟨fault, heq, hmistyped⟩ := StandardRule.mistyped_of_check_error hlength hprepared herror
  exact ⟨s, fault, (StandardRule.name_of_ofName? hs).symm, heq, hmistyped⟩

/-- Bounds are numbers and in order, and what is to be a count is one. -/
structure WellTyped (r : Ruleset) : Prop where
  bounds : ∀ rule ∈ r.rules, ∀ s ∈ StandardRule.boundRules, rule.name = s.name →
    ∀ v ∈ rule.arguments.values, ∃ n, v = .number n
  /-- The first bound of a range does not exceed the second. -/
  ordered : ∀ rule ∈ r.rules, rule.name = StandardRule.range.name → ∀ low high,
    rule.arguments.values[0]? = some (.number low) →
    rule.arguments.values[1]? = some (.number high) → low.compare high ≠ .gt
  counts : ∀ rule ∈ r.rules, ∀ s ∈ StandardRule.countRules, rule.name = s.name →
    ∀ v ∈ rule.arguments.values, ∃ n : Nat, IsCount n ∧ v = .number (.int n)

/-- A rule that is run is a rule. -/
theorem Runs.mem_rules {rule : Rule} (h : r.Runs rule) : rule ∈ r.rules := by
  rcases h with htype | ⟨hpattern, _⟩
  · exact List.mem_append_left _ htype
  · exact List.mem_append_right _ hpattern

/-- Rules with arguments of the right type are not mistyped. -/
theorem WellTyped.not_mistyped (h : r.WellTyped) {rule : Rule} (hrule : r.Runs rule)
    {s : StandardRule} (hname : rule.name = s.name) {fault : ArgumentFault} :
    ¬s.Mistyped rule.arguments.values fault := by
  have hmem := hrule.mem_rules
  intro hmistyped
  cases hmistyped with
  | notNumber hs harg hfound =>
    obtain ⟨n, rfl⟩ := h.bounds rule hmem s hs hname _ (List.mem_of_getElem? harg)
    cases hfound
  | notCount hs harg hfound =>
    obtain ⟨n, hcount, rfl⟩ := h.counts rule hmem s hs hname _ (List.mem_of_getElem? harg)
    rw [count?_of_isCount hcount] at hfound
    cases hfound
  | invertedRange hs hlow hhigh hinverted =>
    exact h.ordered rule hmem (hs ▸ hname) _ _ hlow hhigh hinverted

section Read

variable [PatternEngine] {description : Value} {mode : RecordMode} {subject : Value} {keyPath : String}

/-- A challenge that comes to no verdict has run a rule that errs. -/
theorem exists_provider_of_challenge_error (hread : ofDescription .standard description = .ok r)
    {e : ChallengeError} (he : (r.challenge .standard mode subject keyPath).result = .error e)
    {E : ProviderError → Prop} (hrules : r.Everywhere (RulesErrBy .standard E)) :
    ∃ error, e = .provider error ∧ E error := by
  refine (mayEnd_of_challenge he).exists_provider ?_ hrules
  rintro place rfl
  exact result_ne_recursionLimit_of_read hread mode subject keyPath place he

/-- A challenge that comes to no verdict has met an argument of the wrong type. -/
theorem mistyped_of_challenge_error (hsound : r.Everywhere (Sound .standard))
    (hread : ofDescription .standard description = .ok r) {e : ChallengeError}
    (he : (r.challenge .standard mode subject keyPath).result = .error e) :
    ∃ (s : StandardRule) (args : List Value) (fault : ArgumentFault),
      e = .provider (.badArgument s.name fault.message) ∧ s.Mistyped args fault := by
  have hrules : r.Everywhere (RulesErrBy .standard fun error =>
      ∃ (s : StandardRule) (args : List Value) (fault : ArgumentFault),
        error = .badArgument s.name fault.message ∧ s.Mistyped args fault) := by
    refine hsound.imp fun q hq rule v error hrule hcheck => ?_
    obtain ⟨s, fault, _, heq, hmistyped⟩ := hq.mistyped_of_check_error hrule hcheck
    exact ⟨s, _, fault, heq, hmistyped⟩
  obtain ⟨error, rfl, s, args, fault, rfl, hmistyped⟩ :=
    exists_provider_of_challenge_error hread he hrules
  exact ⟨s, args, fault, rfl, hmistyped⟩

/-- A challenge comes to a verdict if no argument has the wrong type. -/
theorem exists_verdict_of_wellTyped (hsound : r.Everywhere (Sound .standard))
    (hread : ofDescription .standard description = .ok r) (htyped : r.Everywhere WellTyped) :
    ∃ verdict, (r.challenge .standard mode subject keyPath).result = .ok verdict := by
  have hrules : r.Everywhere (RulesErrBy .standard fun _ => False) := by
    refine (hsound.and htyped).imp fun q ⟨hq, hqtyped⟩ rule v error hrule hcheck => ?_
    obtain ⟨s, fault, hname, _, hmistyped⟩ := hq.mistyped_of_check_error hrule hcheck
    exact hqtyped.not_mistyped hrule hname hmistyped
  cases hresult : (r.challenge .standard mode subject keyPath).result with
  | ok verdict => exact ⟨verdict, rfl⟩
  | error e =>
    obtain ⟨_, _, hfalse⟩ := exists_provider_of_challenge_error hread hresult hrules
    exact hfalse.elim

/-- Where a ruleset of standard rules was read, a challenge comes to no verdict only because an
argument has the wrong type: a bound is no number, a range is inverted, or what is to be a count is
none. Where no argument of the ruleset and of those inside it has the wrong type, every challenge
comes to a verdict. So it is in every build, but one that checks its sums may also stop, and it does not
if no list allows the greatest number of items. -/
theorem challenge_aborts_only_if_mistyped (hkeys : description.KeysDistinct)
    (hread : ofDescription .standard description = .ok r) (build : Build) (mode : RecordMode)
    (subject : Value) (keyPath : String) :
    (∀ e, (r.challengeIn build .standard mode subject keyPath).result = .error e →
      build = .checking e ∨ ∃ (s : StandardRule) (args : List Value) (fault : ArgumentFault),
        e = .provider (.badArgument s.name fault.message) ∧ s.Mistyped args fault) ∧
    (r.Everywhere WellTyped →
      (build = .wrapping ∨ r.Everywhere ListsFit →
        ∃ verdict, (r.challengeIn build .standard mode subject keyPath).result = .ok verdict) ∧
      ∀ e, (r.challengeIn build .standard mode subject keyPath).result = .error e →
        build = .checking e) := by
  have hregular := regular_of_ofDescriptionWithin Provider.standard_coherent _ _ _ hkeys hread
  have hsound : r.Everywhere (Sound .standard) := hregular.everywhere_sound
  have hends {e : ChallengeError}
      (he : (r.challengeIn build .standard mode subject keyPath).result = .error e) :
      (r.challenge .standard mode subject keyPath).result = .error e ∨ build = .checking e := by
    obtain hsame | ⟨mark, hmark, hresult⟩ :=
      challengeIn_eq_or_stops (.of_forall (stopsWith_mark? build) r)
    · exact .inl (hsame ▸ he)
    · obtain rfl := Except.error.inj (hresult.symm.trans he)
      exact .inr (Build.eq_checking_of_mark? hmark)
  refine ⟨fun e he => ?_, fun htyped => ⟨fun hfit => ?_, fun e he => ?_⟩⟩
  · obtain hsame | hstops := hends he
    · exact .inr (mistyped_of_challenge_error hsound hread hsame)
    · exact .inl hstops
  · rw [challengeIn_eq hfit]
    exact exists_verdict_of_wellTyped hsound hread htyped
  · obtain hsame | hstops := hends he
    · obtain ⟨verdict, hverdict⟩ := exists_verdict_of_wellTyped hsound hread htyped
      cases hverdict.symm.trans hsame
    · exact hstops

end Read

/-- An integer from zero to nine. -/
def digit : Ruleset :=
  { ofType "integer" with
    patternRules := [⟨"range", .list [.number (.int 0), .number (.int 9)], .pattern, []⟩] }

/-- The bounds of a digit are numbers in order. -/
theorem digit_wellTyped : digit.WellTyped where
  bounds := by simp [digit, ofType, rules, Arguments.values]
  ordered := by
    have hordered : (Json.Number.int 0).compare (.int 9) ≠ .gt := by decide
    simp [digit, ofType, rules, Arguments.values, hordered]
  counts := by
    simp [digit, ofType, rules, Arguments.values, StandardRule.countRules, StandardRule.name,
      StandardRule.descriptor, Descriptor.pattern]

/-- A list of at least one integer from zero to nine. -/
def someDigits : Ruleset :=
  { ofType "indexedArray" with
    patternRules := [⟨"minSize", .list [.number (.int 1)], .pattern, []⟩]
    listItems := some ⟨0, none, digit⟩ }

/-- The least number of digits is a count. -/
theorem someDigits_wellTyped : someDigits.WellTyped where
  bounds := by simp [someDigits, ofType, rules, Arguments.values]
  ordered := by simp [someDigits, ofType, rules, Arguments.values]
  counts := by
    have hone : ∃ n : Nat, IsCount n ∧ (1 : Int) = n :=
      ⟨1, by simp [IsCount, Json.Number.ceiling], rfl⟩
    simp [someDigits, ofType, rules, Arguments.values, hone]

/-- The arguments of all its rules have the right type, so a list with a text comes to a verdict. -/
theorem someDigits_settles :
    let description := Value.object
      [("indexedArray", .bool true), ("minSize", .number (.int 1)),
        ("listItems", .object
          [("integer", .bool true), ("range", .array [.number (.int 0), .number (.int 9)])])]
    ofDescription .standard description = .ok someDigits ∧
    someDigits.Everywhere WellTyped ∧
    someDigits.Everywhere ListsFit ∧
    ∀ build, ∃ verdict,
      (someDigits.challengeIn build .standard .all (.array [.string "x"]) "root").result =
        .ok verdict := by
  intro description
  have hkeys : description.KeysDistinct := by
    simp [description, Association.keys, Value.KeysDistinct, Value.ItemsKeysDistinct,
      Value.MembersKeysDistinct]
  have hread : ofDescription .standard description = .ok someDigits := rfl
  have hinner : digit.Everywhere WellTyped := .node digit_wellTyped (by simp [parts, digit, ofType])
  have htyped : someDigits.Everywhere WellTyped :=
    .node someDigits_wellTyped (by simpa [parts, someDigits, ofType] using hinner)
  have hinnerFit : digit.Everywhere ListsFit :=
    .node (by simp [ListsFit, digit, ofType]) (by simp [parts, digit, ofType])
  have hfit : someDigits.Everywhere ListsFit :=
    .node (by simp [ListsFit, someDigits, ofType]) (by simpa [parts, someDigits, ofType] using hinnerFit)
  exact ⟨hread, htyped, hfit, fun build =>
    ((challenge_aborts_only_if_mistyped hkeys hread build _ _ _).2 htyped).1 (.inr hfit)⟩

/-- A build that checks its sums stops at the first item of a list that allows the greatest number of
them. -/
example (mark : ChallengeError) :
    let digits : Ruleset := { ofType "indexedArray" with listItems := some ⟨0, some maxWord, digit⟩ }
    (digits.challengeIn (.checking mark) .standard .off (.array [.number (.int 7)]) "root").result =
        .error mark ∧
      (digits.challenge .standard .off (.array [.number (.int 7)]) "root").result = .ok true :=
  ⟨rfl, rfl⟩

/-- A bound that is a text is found out when a subject meets it. -/
example :
    let least : Ruleset := { ofType "integer" with
      patternRules := [⟨"min", .list [.string "x"], .pattern, []⟩] }
    (least.challenge .standard .off (.number (.int 1)) "root").result =
      .error (.provider (.badArgument "min" "argument 1 must be a number, got \"x\"")) := rfl

end Ruleset

end Rulebook
