import Rulebook.Proofs.Challenge.Acceptance
import Rulebook.Proofs.Challenge.Errors
import Rulebook.Proofs.Description.Nesting

/-!
# The depth of a walk

The walk over a subject and the reading of a description count levels apart from each other. The walk
counts links to what is declared for children, the reading counts fallbacks as well; so the walk of a
ruleset that was read never goes too deep, and that of any other ruleset only along links to children.
-/

namespace Rulebook

open Json (Value)

namespace Ruleset

/-- A ruleset has a chain of so many links to rulesets for children. Between links, the chain may go
to a fallback. -/
inductive Descends : Ruleset → Nat → Prop
  | here (r : Ruleset) : Descends r 0
  | alternative {r a : Ruleset} {links : Nat} (ha : r.alternativeRuleSet = some a)
      (h : Descends a links) : Descends r links
  | child {r q : Ruleset} {links : Nat} (hq : r.DeclaresChild q) (h : Descends q links) :
      Descends r (links + 1)

variable {p : Provider} {r : Ruleset}

/-- A ruleset that is read with some levels to go has no chain of as many links. -/
theorem Descends.lt_levels {links : Nat} (h : r.Descends links) {levels : Nat} {v : Value}
    {place : Location} (hread : ofDescriptionWithin p levels v place = .ok r) : links < levels := by
  induction h generalizing levels v place with
  | here r =>
    cases levels with
    | zero => cases hread
    | succ levels => omega
  | alternative ha _ ih =>
    cases levels with
    | zero => cases hread
    | succ levels =>
      obtain ⟨v, place, ha⟩ := parts_of_ofDescriptionWithin hread _ (mem_parts_of_alternative ha)
      have hlt := ih ha
      omega
  | child hq _ ih =>
    cases levels with
    | zero => cases hread
    | succ levels =>
      obtain ⟨v, place, hq⟩ := parts_of_ofDescriptionWithin hread _ hq.mem_parts
      have hlt := ih hq
      omega

/-- A walk that begins no deeper than one level below the deepest goes too deep there, along links
to children. -/
theorem MayEnd.descends {depth : Nat} {e : ChallengeError} (h : r.MayEnd p depth e)
    {place : Location} (he : e = .recursionLimit place) (hdepth : depth ≤ maxDepth + 1) :
    ∃ links, r.Descends links ∧ place.depth = depth + links ∧ place.depth = maxDepth + 1 := by
  induction h with
  | deep hdeep =>
    cases he
    exact ⟨0, .here _, rfl, by omega⟩
  | rule => cases he
  | alternative ha _ ih =>
    obtain ⟨links, hlinks, hplace⟩ := ih he hdepth
    exact ⟨links, .alternative ha hlinks, hplace⟩
  | child hq hshallow _ ih =>
    obtain ⟨links, hlinks, hsum, hplace⟩ := ih he (by omega)
    exact ⟨links + 1, .child hq hlinks, by omega, hplace⟩

/-- Only a chain of links to children that is longer than the greatest depth makes a walk go too
deep, and it does so one level below the greatest depth. -/
theorem descends_of_recursionLimit {mode : RecordMode} {subject : Value} {keyPath : String}
    {place : Location}
    (h : (r.challenge p mode subject keyPath).result = .error (.recursionLimit place)) :
    r.Descends (maxDepth + 1) ∧ place.depth = maxDepth + 1 := by
  obtain ⟨links, hlinks, hsum, hplace⟩ := (mayEnd_of_challenge h).descends rfl (Nat.zero_le _)
  have heq : links = maxDepth + 1 := by omega
  exact ⟨heq ▸ hlinks, hplace⟩

/-- The walk of a ruleset that was read never goes too deep. -/
theorem result_ne_recursionLimit_of_read {description : Value}
    (hread : ofDescription p description = .ok r) (mode : RecordMode) (subject : Value)
    (keyPath : String) (place : Location) :
    (r.challenge p mode subject keyPath).result ≠ .error (.recursionLimit place) := by
  intro h
  have hlt := (descends_of_recursionLimit h).1.lt_levels hread
  simp [Location.root] at hlt

/-- The challenge with a description never goes too deep, whatever the provider, the description and
the subject. The challenge with any ruleset, however it was put together, goes too deep only if the
ruleset has a chain of more than ten links to rulesets for children, and then at depth eleven. -/
theorem recursionLimit_only_by_descent :
    (∀ (c : Challenger) (subject description : Value) (keyPath : String) (place : Location),
      (c.challengeDescription subject description keyPath).1 ≠ .error (.recursionLimit place)) ∧
    ∀ (p : Provider) (mode : RecordMode) (r : Ruleset) (subject : Value) (keyPath : String)
      (place : Location),
      (r.challenge p mode subject keyPath).result = .error (.recursionLimit place) →
        r.Descends 11 ∧ place.depth = 11 := by
  refine ⟨fun c subject description keyPath place h => ?_,
    fun p mode r subject keyPath place h => ?_⟩
  · unfold Challenger.challengeDescription at h
    cases hread : ofDescription c.provider description with
    | error e =>
      rw [hread] at h
      cases h
    | ok r =>
      rw [hread] at h
      exact result_ne_recursionLimit_of_read hread c.mode subject keyPath place h
  · exact descends_of_recursionLimit h

/-- Lists in lists, so many levels deep, of integers. -/
def nestedLists : Nat → Ruleset
  | 0 => ofType "integer"
  | levels + 1 =>
    { ofType "indexedArray" with listItems := some ⟨0, none, nestedLists levels⟩ }

/-- A list in a list, so many levels deep, with nothing in the innermost one. -/
def nestedArray : Nat → Value
  | 0 => .array []
  | levels + 1 => .array [nestedArray levels]

/-- Eleven links to the items of lists lead one level below the greatest depth. -/
theorem nestedLists_tooDeep :
    ∃ place,
      ((nestedLists 11).challenge .standard .off (nestedArray 10) "root").result = .ok true ∧
      ((nestedLists 11).challenge .standard .off (nestedArray 11) "root").result =
        .error (.recursionLimit place) ∧
      (nestedLists 11).Descends 11 ∧ place.depth = 11 := by
  have hdeep : ((nestedLists 11).challenge .standard .off (nestedArray 11) "root").result =
      .error (.recursionLimit ⟨11, "root[0][0][0][0][0][0][0][0][0][0][0]"⟩) := rfl
  exact ⟨_, rfl, hdeep, recursionLimit_only_by_descent.2 _ _ _ _ _ _ hdeep⟩

end Ruleset

end Rulebook
