import Rulebook.Proofs.Challenge.Visit

/-!
# Builds

An optimized build and one that checks its sums differ over nothing but the greatest number of items. A
build that checks its sums does what the optimized one does, or it stops, and it stops only if a list
allows the greatest number of items that a machine word holds. What is said of challenges elsewhere is
said of an optimized build; it holds in every build of all rulesets whose lists allow fewer items. That
the numbers of the walk stand for machine words is shown first.
-/

namespace Rulebook

open Json (Value)

/-- The mark of a build that stops. -/
def Build.mark? : Build → Option ChallengeError
  | .wrapping => none
  | .checking mark => some mark

/-- A build with a mark is one that checks its sums. -/
theorem Build.eq_checking_of_mark? {b : Build} {mark : ChallengeError} (h : b.mark? = some mark) :
    b = .checking mark := by
  cases b with
  | wrapping => cases h
  | checking own => exact congrArg checking (Option.some.inj h)

/-- No list that a ruleset declares allows the greatest number of items. -/
def Ruleset.ListsFit (r : Ruleset) : Prop := ∀ l, r.listItems = some l → l.maxOccur ≠ some maxWord

/-- A build stops if it checks its sums, the list allows the greatest number of items, and there is an
item. -/
theorem Build.stop?_eq_some_iff {b : Build} {most : Option Nat} {items : List (String × Value)}
    {mark : ChallengeError} :
    b.stop? most items = some mark ↔ b = .checking mark ∧ most = some maxWord ∧ items ≠ [] := by
  cases b with
  | wrapping => simp [stop?]
  | checking own =>
    cases most with
    | none => simp [stop?]
    | some most =>
      cases items with
      | nil => simp [stop?]
      | cons item rest => simp [stop?, and_comm]

/-! ## Counting in machine words -/

/-- One more than a word, in a build. -/
def Build.next : Build → UInt64 → Walk UInt64
  | .wrapping, n => pure (n + 1)
  | .checking mark, n => if n.toNat = maxWord then throw mark else pure (n + 1)

section Counting

variable (build : Build) (mode : RecordMode) (subject : Value) (place : Location)

/-- The number of an item, counted from one, meets the most that a list allows. -/
def meetMost (most : Option UInt64) (number : UInt64) : Walk Bool :=
  match most with
  | some most => do
    let tooMany ← build.next most
    if number = tooMany then .fail mode place subject (.tooMany most.toNat) else pure true
  | none => pure true

/-- The items of a subject meet a list, counted in machine words. -/
def countItemsFrom (most : Option UInt64) (visit : Visit) (kind : ContainerKind) :
    UInt64 → List (String × Value) → Walk Bool
  | _, [] => pure true
  | seen, child :: rest => do
    let number ← build.next seen
    .both mode (meetMost build mode subject place most number)
      (.both mode (visit child.2 (place.child kind child.1))
        (countItemsFrom most visit kind number rest))

variable {build mode subject place} {most : Option UInt64} {visit : Visit} {kind : ContainerKind}
  {seen : UInt64} {items : List (String × Value)}

/-- Below the greatest word there is a next one in every build. -/
theorem Build.next_of_lt {n : UInt64} (h : n.toNat < maxWord) : build.next n = pure (n + 1) := by
  cases build with
  | wrapping => rfl
  | checking mark => exact if_neg (Nat.ne_of_lt h)

/-- The next word is one more where it does not wrap around. -/
theorem toNat_next {n : UInt64} (h : n.toNat < maxWord) : (n + 1).toNat = n.toNat + 1 := by
  have hone : (1 : UInt64).toNat = 1 := rfl
  have hfits : n.toNat + 1 < 18446744073709551616 := by simpa [maxWord] using Nat.succ_lt_succ h
  rw [UInt64.toNat_add, hone]
  exact Nat.mod_eq_of_lt hfits

/-- If there is an item, the most that a list allows has a next word in a build that goes on. -/
theorem Build.next_of_stop?_eq_none {most : UInt64} (hitems : items ≠ [])
    (h : build.stop? (some most.toNat) items = none) : build.next most = pure (most + 1) := by
  cases build with
  | wrapping => rfl
  | checking mark =>
    refine if_neg fun hmost => ?_
    have hstops : (checking mark).stop? (some most.toNat) items = some mark :=
      stop?_eq_some_iff.mpr ⟨rfl, congrArg some hmost, hitems⟩
    cases h.symm.trans hstops

/-- To meet the most that a list allows, words are compared as the numbers are: two sums with one are equal,
wrapped around or not, only if the words are. -/
theorem meetMost_next (hmost : ∀ m, most = some m → build.next m = pure (m + 1)) :
    meetMost build mode subject place most (seen + 1) =
      match most.map UInt64.toNat with
      | some most => if seen.toNat = most then .fail mode place subject (.tooMany most) else pure true
      | none => pure true := by
  cases most with
  | none => rfl
  | some most => simp [meetMost, hmost most rfl, UInt64.toNat_inj]

/-- Items counted in words are walked as those counted in numbers, as far as the words reach. -/
theorem countItemsFrom_eq (hmost : items ≠ [] → ∀ m, most = some m → build.next m = pure (m + 1))
    (hroom : seen.toNat + items.length ≤ maxWord) :
    countItemsFrom build mode subject place most visit kind seen items =
      visitItemsFrom mode subject place (most.map UInt64.toNat) visit kind seen.toNat items := by
  induction items generalizing seen with
  | nil => rfl
  | cons child rest ih =>
    have hseen : seen.toNat < maxWord := by simp only [List.length_cons] at hroom; omega
    have hnext := toNat_next hseen
    have hrest := @ih (seen + 1) (fun _ => hmost (List.cons_ne_nil _ _))
      (by simp only [List.length_cons] at hroom; omega)
    rw [countItemsFrom, Build.next_of_lt hseen, pure_bind, hrest, hnext,
      meetMost_next (hmost (List.cons_ne_nil _ _))]
    rfl

/-- The first item stops a build for which the most that a list allows has no next word. -/
theorem countItemsFrom_of_stop {mark : ChallengeError}
    (hstop : build.stop? (most.map UInt64.toNat) items = some mark) (hseen : seen.toNat < maxWord) :
    countItemsFrom build mode subject place most visit kind seen items = throw mark := by
  obtain ⟨rfl, hmost, hitems⟩ := Build.stop?_eq_some_iff.mp hstop
  obtain ⟨most, rfl, hword⟩ := Option.map_eq_some_iff.mp hmost
  cases items with
  | nil => exact absurd rfl hitems
  | cons child rest =>
    have hmeet (number : UInt64) :
        meetMost (.checking mark) mode subject place (some most) number = throw mark := by
      simp [meetMost, Build.next, hword]
    rw [countItemsFrom, Build.next_of_lt hseen, pure_bind, hmeet]
    rfl

/-- In every build a list is met as by counting in machine words, if the number of children is a word. -/
theorem visitItemsIn_eq_count {least : Nat} (hroom : (children subject).length ≤ maxWord) :
    visitItemsIn mode subject place build least (most.map UInt64.toNat) visit kind =
      .both mode (countItemsFrom build mode subject place most visit kind 0 (children subject))
        (if (children subject).length < least then
          .fail mode place subject (.tooFew least (children subject).length)
        else pure true) := by
  unfold visitItemsIn
  cases hstop : build.stop? (most.map UInt64.toNat) (children subject) with
  | some mark =>
    rw [countItemsFrom_of_stop hstop (by decide)]
    rfl
  | none =>
    rw [countItemsFrom_eq _ (by simpa using hroom)]
    · rfl
    · rintro hitems m rfl
      exact Build.next_of_stop?_eq_none hitems hstop

end Counting

/-- A walk does what another one does, unless it ends with the mark of a stop. -/
def Walk.FollowsUnless {α : Type} (stop : Option ChallengeError) (w other : Walk α) : Prop :=
  ∀ record, ExceptT.run w record = ExceptT.run other record ∨
    ∃ mark, stop = some mark ∧ (ExceptT.run w record).1 = .error mark

/-- The lists of a ruleset stop a build with no other mark. -/
def Ruleset.StopsWith (b : Build) (stop : Option ChallengeError) (r : Ruleset) : Prop :=
  ∀ l, r.listItems = some l → ∀ items mark, b.stop? l.maxOccur items = some mark → stop = some mark

/-! ## Steps -/

namespace Walk.FollowsUnless

variable {stop : Option ChallengeError} {mode : RecordMode} {subject : Value} {place : Location}
  {kind : ContainerKind} {a a' b b' : Walk Bool}

/-- Every walk does what it does. -/
theorem refl {α : Type} (w : Walk α) : FollowsUnless stop w w := fun _ => .inl rfl

/-- Walks that follow others are made one after the other. -/
theorem bind {α : Type} {w other : Walk α} {next next' : α → Walk Bool}
    (h : FollowsUnless stop w other) (hnext : ∀ x, FollowsUnless stop (next x) (next' x)) :
    FollowsUnless stop (w >>= next) (other >>= next') := by
  intro record
  obtain hsame | ⟨mark, hstop, hends⟩ := h record
  · rcases hrun : ExceptT.run other record with ⟨result, after⟩
    rw [hrun] at hsame
    cases result with
    | error e => exact .inl (by rw [run_bind_of_error hsame, run_bind_of_error hrun])
    | ok x =>
      rw [run_bind_of_ok hsame, run_bind_of_ok hrun]
      exact hnext x after
  · rcases hrun : ExceptT.run w record with ⟨result, after⟩
    rw [hrun] at hends
    obtain rfl : result = .error mark := hends
    exact .inr ⟨mark, hstop, by rw [run_bind_of_error hrun]⟩

/-- A walk follows another one where both of their steps do. -/
theorem both (ha : FollowsUnless stop a a') (hb : FollowsUnless stop b b') :
    FollowsUnless stop (.both mode a b) (.both mode a' b') := by
  refine ha.bind fun passed => ?_
  cases passed with
  | true => exact hb
  | false =>
    cases mode.goesOn with
    | true => exact hb.bind fun _ => .refl _
    | false => exact .refl _

/-- A walk over a list follows another one where its steps do. -/
theorem every {α : Type} {step step' : α → Walk Bool} (h : ∀ x, FollowsUnless stop (step x) (step' x))
    (list : List α) : FollowsUnless stop (.every mode step list) (.every mode step' list) := by
  induction list with
  | nil => exact .refl _
  | cons x rest ih => exact (h x).both ih

/-- A walk may stand in for another one. -/
theorem orElse (ha : FollowsUnless stop a a') (hb : FollowsUnless stop b b') :
    FollowsUnless stop (a.orElse b) (a'.orElse b') := by
  refine .bind (.refl _) fun before => ha.bind fun passed => ?_
  cases passed with
  | true => exact .refl _
  | false => exact hb.bind fun _ => .refl _

/-- The failures of a walk may be dropped. -/
theorem unrecorded (h : FollowsUnless stop a a') :
    FollowsUnless stop a.unrecorded a'.unrecorded :=
  .bind (.refl _) fun _ => h.bind fun _ => .refl _

/-- A table follows another one where the walks of what it declares do. -/
theorem visitTable {elements : List (String × Ruleset)} {f g : Ruleset → Visit}
    (h : ∀ e ∈ elements, ∀ v place, FollowsUnless stop (f e.2 v place) (g e.2 v place))
    (membership : Membership) :
    FollowsUnless stop
      (visitTable mode subject place membership elements
        (fun key => (Association.lookup key elements).map f) kind)
      (visitTable mode subject place membership elements
        (fun key => (Association.lookup key elements).map g) kind) := by
  refine .both (every (fun child => ?_) _) (.refl _)
  unfold visitMember
  cases hlookup : Association.lookup child.1 elements with
  | none => simp only [hlookup, Option.map_none]; exact .refl _
  | some q =>
    simp only [hlookup, Option.map_some]
    exact h _ (Association.mem_of_lookup hlookup) _ _

/-- A list in a build follows the same list where the walks of its items do. -/
theorem visitItemsIn {visit visit' : Visit} {build : Build} {least : Nat} {most : Option Nat}
    (h : ∀ v place, FollowsUnless stop (visit v place) (visit' v place))
    (hstop : ∀ items mark, build.stop? most items = some mark → stop = some mark) :
    FollowsUnless stop (visitItemsIn mode subject place build least most visit kind)
      (visitItems mode subject place least most visit' kind) := by
  unfold Rulebook.visitItemsIn
  cases hbuild : build.stop? most (children subject) with
  | some mark => exact fun _ => .inr ⟨mark, hstop _ _ hbuild, rfl⟩
  | none =>
    refine .both ?_ (.refl _)
    generalize children subject = items, 0 = seen
    induction items generalizing seen with
    | nil => exact .refl _
    | cons child rest ih => exact .both (.refl _) (.both (h _ _) (ih _))

/-- The children of a subject are walked as the table and the list of a ruleset are. -/
theorem visitChildren {p : Provider} {told : Option ContainerKind}
    {table table' items items' : Option (ContainerKind → Walk Bool)}
    (htable : Option.Rel (fun t t' => ∀ kind, FollowsUnless stop (t kind) (t' kind)) table table')
    (hitems : Option.Rel (fun l l' => ∀ kind, FollowsUnless stop (l kind) (l' kind)) items items') :
    FollowsUnless stop (visitChildren p mode subject place told table items)
      (visitChildren p mode subject place told table' items') := by
  unfold Rulebook.visitChildren
  cases told <|> p.containerKind subject with
  | none => cases htable <;> cases hitems <;> exact .refl _
  | some kind =>
    cases htable with
    | none =>
      cases hitems with
      | none => exact .refl _
      | some hl => exact hl kind
    | some ht =>
      cases hitems with
      | none => exact ht kind
      | some hl => exact (ht kind).orElse (hl kind)

/-- A subject meets a ruleset as it meets the parts of it. -/
theorem visitNode {p : Provider} {r : Ruleset} {alternative alternative' : Option (Walk Bool)}
    {table table' items items' : Option (ContainerKind → Walk Bool)}
    (halternative : Option.Rel (FollowsUnless stop) alternative alternative')
    (htable : Option.Rel (fun t t' => ∀ kind, FollowsUnless stop (t kind) (t' kind)) table table')
    (hitems : Option.Rel (fun l l' => ∀ kind, FollowsUnless stop (l kind) (l' kind)) items items') :
    FollowsUnless stop (visitNode p mode subject place r alternative table items)
      (visitNode p mode subject place r alternative' table' items') := by
  have hchildren (told : Option ContainerKind) :=
    @visitChildren stop mode subject place p told _ _ _ _ htable hitems
  have hrescued : FollowsUnless stop (rescuedByRules alternative) (rescuedByRules alternative') := by
    cases halternative with
    | none => exact .refl _
    | some h => exact h.unrecorded
  unfold Rulebook.visitNode
  split
  · exact .refl _
  · refine .bind (.refl _) fun verdict => ?_
    cases verdict with
    | settled => exact .refl _
    | passed told => exact hchildren told
    | failed shortfall =>
      dsimp only
      split
      · exact .refl _
      · refine hrescued.bind fun rescued => ?_
        cases rescued with
        | false => exact .refl _
        | true =>
          cases subject.isNull with
          | true => exact .refl _
          | false => exact hchildren none

end Walk.FollowsUnless

/-! ## Challenges -/

namespace Ruleset

variable {build : Build} {stop : Option ChallengeError} {p : Provider} {mode : RecordMode}
  {r : Ruleset} {subject : Value} {keyPath : String}

/-- A ruleset in a build is walked as it is in an optimized one, unless one of its lists stops the
build. -/
theorem visitIn_followsUnless (h : r.Everywhere (StopsWith build stop)) (subject : Value)
    (place : Location) :
    (r.visitIn build p mode subject place).FollowsUnless stop (r.visit p mode subject place) := by
  induction h generalizing subject place with
  | @node r hstops _ ih =>
    rw [visitIn_eq, visit_eq]
    refine .visitNode ?_ ?_ ?_
    · unfold alternativeWalk
      cases ha : r.alternativeRuleSet with
      | none => exact .none
      | some a => exact .some (ih a (mem_parts_of_alternative ha) _ _)
    · unfold tableWalk
      cases ht : r.tableElements with
      | none => exact .none
      | some t =>
        exact .some fun kind => .visitTable
          (fun e he => ih e.2 (mem_parts_of_element ht he)) _
    · unfold itemsWalk
      cases hl : r.listItems with
      | none => exact .none
      | some l =>
        exact .some fun kind => .visitItemsIn (ih _ (mem_parts_of_items hl)) (hstops l hl)

/-- A build gives what an optimized one gives, unless it is stopped. -/
theorem challengeIn_eq_or_stops (h : r.Everywhere (StopsWith build stop)) :
    r.challengeIn build p mode subject keyPath = r.challenge p mode subject keyPath ∨
    ∃ mark, stop = some mark ∧
      (r.challengeIn build p mode subject keyPath).result = .error mark := by
  obtain hsame | hstops := visitIn_followsUnless h subject ⟨0, keyPath⟩ []
  · exact .inl (congrArg (fun ran => Challenged.mk ran.1 ran.2) hsame)
  · exact .inr hstops

/-- Only a build that checks its sums stops. -/
theorem stopsWith_mark? (build : Build) (r : Ruleset) : r.StopsWith build build.mark? := by
  intro l _ items mark h
  obtain ⟨rfl, -⟩ := Build.stop?_eq_some_iff.mp h
  rfl

/-- An optimized build does not stop, and none does if the lists of a ruleset fit. -/
theorem stopsWith_none (h : build = .wrapping ∨ r.ListsFit) : r.StopsWith build none := by
  intro l hl items mark hmark
  obtain ⟨rfl, hmost, -⟩ := Build.stop?_eq_some_iff.mp hmark
  obtain hwrapping | hfit := h
  · cases hwrapping
  · exact absurd hmost (hfit l hl)

/-- Every build challenges as an optimized one does if no list allows the greatest number of items. -/
theorem challengeIn_eq (h : build = .wrapping ∨ r.Everywhere ListsFit) (p : Provider)
    (mode : RecordMode) (subject : Value) (keyPath : String) :
    r.challengeIn build p mode subject keyPath = r.challenge p mode subject keyPath := by
  have hstops : r.Everywhere (StopsWith build none) := by
    obtain hwrapping | hfit := h
    · exact .of_forall (fun _ => stopsWith_none (.inl hwrapping)) r
    · exact hfit.imp fun _ hq => stopsWith_none (.inr hq)
  obtain hsame | ⟨mark, hmark, -⟩ := challengeIn_eq_or_stops hstops
  · exact hsame
  · cases hmark

end Ruleset

end Rulebook
