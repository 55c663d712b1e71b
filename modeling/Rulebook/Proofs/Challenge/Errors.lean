import Rulebook.Proofs.Challenge.InStep

/-!
# Challenges without a verdict

A challenge comes to no verdict because a rule of the ruleset, or of one inside it, cannot be run, or
because the walk has gone too deep. The errors that a ruleset may end with are told by its rules and by
its parts: a fallback is walked at the depth of its ruleset, what is declared for children one level
below.
-/

namespace Rulebook

open Json (Value)

/-- A ruleset asks its provider to run a rule. Enumerations are looked up, not run. -/
def Ruleset.Runs (r : Ruleset) (rule : Rule) : Prop :=
  rule ∈ r.typeRules ∨ (rule ∈ r.patternRules ∧ rule.kind ≠ .enumeration)

/-- A ruleset declares another one for children: for the element of a table or for the items of a
list. -/
def Ruleset.DeclaresChild (r q : Ruleset) : Prop :=
  (∃ t key, r.tableElements = some t ∧ (key, q) ∈ t.elements) ∨
  ∃ l, r.listItems = some l ∧ l.itemRules = q

/-- What is declared for children is a part. -/
theorem Ruleset.DeclaresChild.mem_parts {r q : Ruleset} (h : r.DeclaresChild q) : q ∈ r.parts := by
  rcases h with ⟨t, key, ht, hmem⟩ | ⟨l, hl, rfl⟩
  · exact mem_parts_of_element ht hmem
  · exact mem_parts_of_items hl

/-- The errors that the walk of a ruleset, begun at a depth, may end with. -/
inductive Ruleset.MayEnd (p : Provider) : Ruleset → Nat → ChallengeError → Prop
  | deep {r : Ruleset} {place : Location} (h : maxDepth < place.depth) :
      MayEnd p r place.depth (.recursionLimit place)
  | rule {r : Ruleset} {depth : Nat} {rule : Rule} {v : Value} {e : ProviderError}
      (hrule : r.Runs rule) (hnull : v.isNull = false)
      (h : p.check rule.name v rule.arguments.values = .error e) : MayEnd p r depth (.provider e)
  | alternative {r a : Ruleset} {depth : Nat} {e : ChallengeError}
      (ha : r.alternativeRuleSet = some a) (h : MayEnd p a depth e) : MayEnd p r depth e
  | child {r q : Ruleset} {depth : Nat} {e : ChallengeError} (hq : r.DeclaresChild q)
      (hdepth : depth ≤ maxDepth) (h : MayEnd p q (depth + 1) e) : MayEnd p r depth e

/-! ## The main rules -/

namespace Provider

variable {p : Provider} {subject : Value} {e : ProviderError}

/-- An error of the type-checking rules is that of one of them. -/
theorem exists_of_checkTypes_error {told : Option ContainerKind} {rules : List Rule}
    (h : p.checkTypes subject told rules = .error e) :
    ∃ rule ∈ rules, p.check rule.name subject rule.arguments.values = .error e := by
  induction rules generalizing told with
  | nil => simp [checkTypes] at h
  | cons rule rest ih =>
    cases hcheck : p.check rule.name subject rule.arguments.values with
    | error e' =>
      have heq : e' = e := by simpa [checkTypes, hcheck] using h
      exact ⟨rule, List.mem_cons_self, heq ▸ hcheck⟩
    | ok verdict =>
      cases hpassed : verdict.passed with
      | false => simp [checkTypes, hcheck, hpassed] at h
      | true =>
        have hrest : p.checkTypes subject (told <|> verdict.container?) rest = .error e := by
          simpa [checkTypes, hcheck, hpassed] using h
        obtain ⟨other, hmem, herror⟩ := ih hrest
        exact ⟨other, List.mem_cons_of_mem _ hmem, herror⟩

/-- An error of a pattern rule is that of running it, so it is no enumeration. -/
theorem check_of_passesPattern_error {rule : Rule} (h : p.passesPattern subject rule = .error e) :
    rule.kind ≠ .enumeration ∧ p.check rule.name subject rule.arguments.values = .error e := by
  unfold passesPattern at h
  cases hkind : rule.kind with
  | enumeration => simp [hkind] at h
  | _ =>
    cases hcheck : p.check rule.name subject rule.arguments.values with
    | error e' => simpa [hkind, hcheck] using h
    | ok verdict => simp [hkind, hcheck] at h

/-- An error of the pattern rules is that of one of them. -/
theorem exists_of_failedPattern?_error {rules : List Rule}
    (h : p.failedPattern? subject rules = .error e) :
    ∃ rule ∈ rules, p.passesPattern subject rule = .error e := by
  induction rules with
  | nil => simp [failedPattern?] at h
  | cons rule rest ih =>
    cases hpassed : p.passesPattern subject rule with
    | error e' =>
      have heq : e' = e := by simpa [failedPattern?, hpassed] using h
      exact ⟨rule, List.mem_cons_self, heq ▸ hpassed⟩
    | ok passed =>
      cases passed with
      | false => simp [failedPattern?, hpassed] at h
      | true =>
        have hrest : p.failedPattern? subject rest = .error e := by
          simpa [failedPattern?, hpassed] using h
        obtain ⟨other, hmem, herror⟩ := ih hrest
        exact ⟨other, List.mem_cons_of_mem _ hmem, herror⟩

/-- An error behind the type-checking rules is that of a pattern rule that was run. -/
theorem exists_of_patternVerdict_error {told : Option ContainerKind} {rules : List Rule}
    (h : p.patternVerdict subject told rules = .error e) :
    ∃ rule ∈ rules, rule.kind ≠ .enumeration ∧
      p.check rule.name subject rule.arguments.values = .error e := by
  unfold patternVerdict at h
  cases hfailed : p.failedPattern? subject rules with
  | error e' =>
    have heq : e' = e := by simpa [hfailed] using h
    obtain ⟨rule, hmem, herror⟩ := exists_of_failedPattern?_error (heq ▸ hfailed)
    exact ⟨rule, hmem, check_of_passesPattern_error herror⟩
  | ok failed => cases failed <;> simp [hfailed] at h

/-- An error of the main rules is that of a rule that was run on a subject other than null. -/
theorem exists_of_mainVerdict_error {r : Ruleset} (h : p.mainVerdict r subject = .error e) :
    subject.isNull = false ∧
      ∃ rule, r.Runs rule ∧ p.check rule.name subject rule.arguments.values = .error e := by
  unfold mainVerdict at h
  cases hnull : subject.isNull with
  | true => simp [hnull] at h
  | false =>
    refine ⟨rfl, ?_⟩
    simp only [hnull, Bool.false_eq_true, if_false] at h
    cases hcheck : p.checkTypes subject none r.typeRules with
    | error e' =>
      have heq : e' = e := by simpa [hcheck] using h
      obtain ⟨rule, hmem, herror⟩ := exists_of_checkTypes_error (heq ▸ hcheck)
      exact ⟨rule, Or.inl hmem, herror⟩
    | ok checked =>
      cases checked with
      | error failed => simp [hcheck] at h
      | ok told =>
        have hpattern : p.patternVerdict subject told r.patternRules = .error e := by
          cases hemptiness : r.emptiness with
          | none => simpa [hcheck, hemptiness] using h
          | some emptiness =>
            cases emptiness <;> cases hempty : p.isEmpty subject <;>
              simp [hcheck, hemptiness, hempty] at h <;> exact h
        obtain ⟨rule, hmem, hkind, herror⟩ := exists_of_patternVerdict_error hpattern
        exact ⟨rule, Or.inr ⟨hmem, hkind⟩, herror⟩

end Provider

/-! ## The walk -/

namespace Effect

variable {mode : RecordMode} {a b c : Effect} {e : ChallengeError}

/-- Two walks that both have to pass end with an error of one of them. -/
theorem error_of_both (h : (both mode a b).result = .error e) :
    a.result = .error e ∨ b.result = .error e := by
  cases hmode : mode.goesOn with
  | false =>
    rw [result_both_of_stops hmode] at h
    cases hresult : a.result with
    | error e' => exact Or.inl (by simpa [hresult] using h)
    | ok verdict => cases verdict <;> simp [hresult] at h; exact Or.inr h
  | true =>
    cases hresult : a.result with
    | error e' => exact Or.inl (by simpa [both, hresult] using h)
    | ok verdict =>
      cases hother : b.result with
      | error e' =>
        refine Or.inr ?_
        cases verdict <;> simpa [both, hresult, hother, hmode, Except.map] using h
      | ok other => cases verdict <;> simp [both, hresult, hother, hmode, Except.map] at h

/-- A walk with another one that stands in for it ends with an error of one of them. -/
theorem error_of_orElse (h : (a.orElse b).result = .error e) :
    a.result = .error e ∨ b.result = .error e := by
  rw [result_orElse] at h
  cases hresult : a.result with
  | error e' => exact Or.inl (by simpa [hresult] using h)
  | ok verdict => cases verdict <;> simp [hresult] at h; exact Or.inr h

/-- A fallback with what follows it ends with an error of one of the three walks. -/
theorem error_of_branch (h : (branch a b c).result = .error e) :
    a.result = .error e ∨ b.result = .error e ∨ c.result = .error e := by
  rw [result_branch] at h
  cases hresult : a.result with
  | error e' => exact Or.inl (by simpa [hresult] using h)
  | ok verdict =>
    cases verdict with
    | true => exact Or.inr (Or.inl (by simpa [hresult] using h))
    | false => exact Or.inr (Or.inr (by simpa [hresult] using h))

/-- An effect comes to a verdict or ends with one of some errors. The second effect is there to be
walked in step with, and nothing is said of it. -/
def EndsBy (E : ChallengeError → Prop) (a _ : Effect) : Prop :=
  ∀ e, a.result = .error e → E e

/-- A failure is a verdict. -/
theorem EndsBy.of_failed {E : ChallengeError → Prop} (f : Failure) (b : Effect) :
    EndsBy E (.failed mode f) b := by
  intro e h
  cases h

/-- The steps of walks end with the errors of the walks that they put together. -/
theorem EndsBy.stepRelation (E : ChallengeError → Prop) (mode : RecordMode) :
    StepRelation mode (EndsBy E) where
  accepted e h := by cases h
  both ha hb e h := (error_of_both h).elim (ha e) (hb e)
  branch ha hb hc e h := (error_of_branch h).elim (ha e) fun h => h.elim (hb e) (hc e)
  orElse ha hb e h := (error_of_orElse h).elim (ha e) (hb e)

end Effect

/-- A walk has an effect and ends only with some errors. -/
def Walk.EndsBy (E : ChallengeError → Prop) (w : Walk Bool) : Prop :=
  Walk.InStep (Effect.EndsBy E) w w

namespace Walk.EndsBy

variable {E F : ChallengeError → Prop} {w : Walk Bool}

/-- The errors of a walk are among more errors. -/
theorem imp (h : w.EndsBy E) (hEF : ∀ e, E e → F e) : w.EndsBy F :=
  InStep.imp h fun _ _ hE e he => hEF e (hE e he)

/-- A walk that is aborted ends with its error. -/
theorem aborted {e : ChallengeError} (h : E e) : Walk.EndsBy E (throw e) :=
  InStep.aborted fun e' he => by
    cases he
    exact h

end Walk.EndsBy

/-- The walk of a ruleset ends with no other error than those that its rules and its parts tell. -/
theorem Ruleset.visit_endsBy (p : Provider) (mode : RecordMode) (r : Ruleset) (subject : Value)
    (place : Location) : (r.visit p mode subject place).EndsBy (r.MayEnd p place.depth) := by
  induction r generalizing subject place with
  | ruleset r ih =>
    rw [r.visit_eq]
    by_cases hdeep : maxDepth < place.depth
    · rw [visitNode_of_deep hdeep]
      exact .aborted (.deep hdeep)
    have hchild {q : Ruleset} (hq : r.DeclaresChild q) (v : Value) (kind : ContainerKind)
        (key : String) :
        (q.visit p mode v (place.child kind key)).EndsBy (r.MayEnd p place.depth) :=
      (ih q hq.mem_parts v (place.child kind key)).imp fun _ h =>
        .child hq (by omega) (place.depth_child kind key ▸ h)
    have hstep := Effect.EndsBy.stepRelation (r.MayEnd p place.depth) mode
    refine hstep.inStep_visitNode hdeep hdeep (.of_eq rfl ?_ ?_) rfl rfl (rel_map ?_)
      fun told _ => hstep.inStep_visitChildren ?_ rfl (rel_map ?_) (rel_map ?_)
    · intro e he error herror
      cases herror
      obtain ⟨hnull, rule, hrule, hcheck⟩ := Provider.exists_of_mainVerdict_error he
      exact .rule hrule hnull hcheck
    · exact fun _ _ => .of_failed _ _
    · intro a ha
      have hends := ih a (mem_parts_of_alternative ha) subject place
      exact hstep.leadInStep (hends.imp fun _ h => .alternative ha h) subject
    · exact .of_failed _ _
    · intro t ht kind _
      refine hstep.inStep_visitTable (fun _ _ => .of_failed _ _) rfl rfl fun child _ => ?_
      refine rel_map fun q hq => ?_
      exact hchild (Or.inl ⟨t, child.1, ht, Association.mem_of_lookup hq⟩) _ _ _
    · intro l hl kind _
      exact hstep.inStep_visitItems (fun _ _ => .of_failed _ _) rfl
        (fun child _ => hchild (Or.inr ⟨l, hl, rfl⟩) _ _ _) _ _

/-- A challenge ends with no other error than those that the ruleset may end with from the top. -/
theorem Ruleset.mayEnd_of_challenge {p : Provider} {mode : RecordMode} {r : Ruleset}
    {subject : Value} {keyPath : String} {e : ChallengeError}
    (h : (r.challenge p mode subject keyPath).result = .error e) : r.MayEnd p 0 e := by
  obtain ⟨effect, _, heffect, _, hends⟩ := r.visit_endsBy p mode subject ⟨0, keyPath⟩
  rw [challenge_of_hasEffect heffect] at h
  exact hends e h

/-- The rules that a ruleset runs err only in some ways. -/
def Ruleset.RulesErrBy (p : Provider) (E : ProviderError → Prop) (r : Ruleset) : Prop :=
  ∀ rule v e, r.Runs rule → p.check rule.name v rule.arguments.values = .error e → E e

/-- A walk that does not go too deep ends with an error of a rule. -/
theorem Ruleset.MayEnd.exists_provider {p : Provider} {E : ProviderError → Prop} {r : Ruleset}
    {depth : Nat} {e : ChallengeError} (h : r.MayEnd p depth e)
    (hdeep : ∀ place, e ≠ .recursionLimit place)
    (hrules : r.Everywhere (RulesErrBy p E)) :
    ∃ error, e = .provider error ∧ E error := by
  induction h with
  | deep => exact absurd rfl (hdeep _)
  | rule hrule _ hcheck => exact ⟨_, rfl, hrules.here _ _ _ hrule hcheck⟩
  | alternative ha _ ih => exact ih hdeep (hrules.parts _ (mem_parts_of_alternative ha))
  | child hq _ _ ih => exact ih hdeep (hrules.parts _ hq.mem_parts)

end Rulebook
