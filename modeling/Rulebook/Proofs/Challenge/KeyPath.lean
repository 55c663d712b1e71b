import Rulebook.Proofs.Challenge.InStep

/-!
# The key path at the top

The key path with which a challenge starts stands in front of every key path that it tells, in failures
and in the error of a subject that is nested too deep. Nothing else depends on it.
-/

namespace Rulebook

open Json (Value)

/-- A place with a key path in front of its own. -/
def Location.under (keyPath : String) (place : Location) : Location :=
  { place with keyPath := keyPath ++ place.keyPath }

/-- A failure with a key path in front of its own. -/
def Failure.under (keyPath : String) (f : Failure) : Failure :=
  { f with place := f.place.under keyPath }

/-- An error with a key path in front of the one that it tells, if it tells one of a subject. -/
def ChallengeError.under (keyPath : String) : ChallengeError → ChallengeError
  | .recursionLimit place => .recursionLimit (place.under keyPath)
  | error => error

/-- What a challenge comes to, with a key path in front of all others. -/
def Challenged.under (keyPath : String) (c : Challenged) : Challenged :=
  ⟨c.result.mapError (ChallengeError.under keyPath), c.record.map (Failure.under keyPath)⟩

/-- A key path may be put in front before a step to a child or behind it. -/
theorem Location.child_under (keyPath : String) (place : Location) (kind : ContainerKind)
    (key : String) : (place.under keyPath).child kind key = (place.child kind key).under keyPath := by
  cases kind <;> simp [under, child, String.append_assoc]

namespace Effect

/-- The second effect is the first with other errors and other failures. -/
def MapsTo (g : ChallengeError → ChallengeError) (f : Failure → Failure) (e e' : Effect) : Prop :=
  e' = e.map g f

/-- The steps of walks neither look at errors nor at failures. -/
theorem MapsTo.stepRelation (g : ChallengeError → ChallengeError) (f : Failure → Failure)
    (mode : RecordMode) : StepRelation mode (MapsTo g f) where
  accepted := (map_accepted g f).symm
  both ha hb := by rw [MapsTo, map_both, ha, hb]
  branch ha hb hc := by rw [MapsTo, map_branch, ha, hb, hc]
  orElse ha hb := by rw [MapsTo, map_orElse, ha, hb]

end Effect

namespace Ruleset

/-- The walk at a place behind a key path finds what it finds at the place, behind that key path. -/
theorem inStep_visit_under (p : Provider) (mode : RecordMode) (keyPath : String) (r : Ruleset)
    (subject : Value) (place : Location) :
    Walk.InStep (Effect.MapsTo (ChallengeError.under keyPath) (Failure.under keyPath))
      (r.visit p mode subject place) (r.visit p mode subject (place.under keyPath)) := by
  have hR := Effect.MapsTo.stepRelation (ChallengeError.under keyPath) (Failure.under keyPath) mode
  induction r generalizing subject place with
  | ruleset r ih =>
    have hfailed (kind : FailureKind) :
        Effect.MapsTo (ChallengeError.under keyPath) (Failure.under keyPath)
          (.failed mode ⟨place, kind, Preview.of subject⟩)
          (.failed mode ⟨place.under keyPath, kind, Preview.of subject⟩) :=
      (Effect.map_failed _ (Failure.under keyPath) ⟨place, kind, Preview.of subject⟩).symm
    rw [r.visit_eq, r.visit_eq]
    by_cases hdeep : maxDepth < place.depth
    · have hdeep' : maxDepth < (place.under keyPath).depth := hdeep
      rw [visitNode_of_deep hdeep, visitNode_of_deep hdeep']
      exact .aborted rfl
    refine hR.inStep_visitNode hdeep hdeep
      (.of_eq rfl (fun _ _ => rfl) fun _ _ => hfailed _) rfl rfl
      (rel_map fun a ha => hR.leadInStep (ih a (mem_parts_of_alternative ha) subject place) subject)
      fun told _ => hR.inStep_visitChildren (hfailed _) rfl (rel_map ?_) (rel_map ?_)
    · intro t ht kind _
      refine hR.inStep_visitTable (fun _ _ => hfailed _) rfl rfl fun child _ =>
        rel_map fun q hq => ?_
      rw [Location.child_under]
      exact ih q (mem_parts_of_element ht (Association.mem_of_lookup hq)) _ _
    · intro l hl kind _
      refine hR.inStep_visitItems (fun _ _ => hfailed _) rfl (fun child _ => ?_) _ _
      rw [Location.child_under]
      exact ih l.itemRules (mem_parts_of_items hl) _ _

/-- A challenge at a key path comes to what it comes to at none, behind that key path. -/
theorem challenge_eq_under (p : Provider) (mode : RecordMode) (r : Ruleset) (subject : Value)
    (keyPath : String) :
    r.challenge p mode subject keyPath = (r.challenge p mode subject "").under keyPath := by
  obtain ⟨e, _, he, he', rfl⟩ := r.inStep_visit_under p mode keyPath subject ⟨0, ""⟩
  rw [Location.under, String.append_empty] at he'
  rw [challenge_of_hasEffect he, challenge_of_hasEffect he']
  rfl

end Ruleset

end Rulebook
