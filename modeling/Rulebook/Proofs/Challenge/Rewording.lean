import Mathlib.Data.Multiset.MapFold
import Mathlib.Logic.Relation
import Rulebook.Proofs.Challenge.Acceptance
import Rulebook.Proofs.Challenge.FormerNames
import Rulebook.Proofs.Challenge.Tally
import Rulebook.Proofs.Json.Reordering
import Rulebook.Proofs.Ruleset.Revision

/-!
# Rewording rulesets

Equality of rulesets passes over the former names of rules, the order of declared elements and the
order of listed keys. So does a challenge: rulesets that differ in these alone, at any depth, lead it
to one result, and to the same failures up to their order and to the former names that they tell.
-/

namespace Rulebook

open Json (Value)

/-- A reason that tells of a rule without its former names, so that the label of the rule ends before
them. -/
def FailureKind.plain : FailureKind → FailureKind
  | .rule failed tried => .rule failed.plain tried
  | kind => kind

/-- A failure that tells of a rule without its former names. -/
def Failure.plain (f : Failure) : Failure := { f with kind := f.kind.plain }

namespace Ruleset

/-- One ruleset is told in other words. -/
inductive Rewording : Ruleset → Ruleset → Prop
  | formerNames {r : Ruleset} {types patterns : List Rule}
      (types_eq : types.map Rule.plain = r.typeRules.map Rule.plain)
      (patterns_eq : patterns.map Rule.plain = r.patternRules.map Rule.plain) :
      Rewording r { r with typeRules := types, patternRules := patterns }
  /-- The elements of the table, which have distinct keys, are declared in another order. -/
  | elements {r : Ruleset} {t : TableElements Ruleset} {elements : List (String × Ruleset)}
      (declares : r.tableElements = some t) (distinct : t.keys.Nodup)
      (order : elements.Perm t.elements) :
      Rewording r (r.withTableElements { t with elements := elements })
  | whitelist {r : Ruleset} {t : TableElements Ruleset} {keys keys' : List String}
      (declares : r.tableElements = some t) (listed : t.membership = .whitelist keys)
      (order : keys'.Perm keys) :
      Rewording r (r.withTableElements { t with membership := .whitelist keys' })
  | blacklist {r : Ruleset} {t : TableElements Ruleset} {keys keys' : List String}
      (declares : r.tableElements = some t) (listed : t.membership = .blacklist keys)
      (order : keys'.Perm keys) :
      Rewording r (r.withTableElements { t with membership := .blacklist keys' })

/-- The second ruleset is the first in other words, in any rulesets in it. -/
def Reworded : Ruleset → Ruleset → Prop := Relation.ReflTransGen (Revised Rewording)

/-- Other words leave a ruleset optional or not. -/
theorem Revised.optional_eq_of_rewording {r r' : Ruleset} (h : Revised Rewording r r') :
    r'.optional = r.optional := by
  cases h with
  | here change => cases change <;> rfl
  | _ => rfl

end Ruleset

/-! ## Relations that are blind to words -/

/-- A relation between effects that the steps of walks keep, and that looks neither at former names nor
at the order in which keys are missed. -/
structure WordingRelation (mode : RecordMode) (R : Effect → Effect → Prop) : Prop
    extends StepRelation mode R where
  refl : ∀ e, R e e
  trans : ∀ {a b c}, R a b → R b c → R a c
  failed : ∀ {place subject} {kind kind' : FailureKind}, kind.plain = kind'.plain →
    R (.failed mode ⟨place, kind, subject⟩) (.failed mode ⟨place, kind', subject⟩)
  missing : ∀ subject place {keys keys' : List String}, keys.Perm keys' →
    Walk.InStep R (.every mode (fun key => .fail mode place subject (.missingKey key)) keys)
      (.every mode (fun key => .fail mode place subject (.missingKey key)) keys')

namespace Effect

/-- Results do not depend on words. -/
theorem SameResult.wordingRelation (mode : RecordMode) : WordingRelation mode SameResult where
  toStepRelation := SameResult.stepRelation mode
  refl _ := rfl
  trans := Eq.trans
  failed _ := rfl
  missing subject place keys keys' hperm := by
    obtain ⟨e, he, hresult⟩ := exists_hasEffect_missing mode subject place keys
    obtain ⟨e', he', hresult'⟩ := exists_hasEffect_missing mode subject place keys'
    refine ⟨e, e', he, he', ?_⟩
    rw [SameResult, hresult, hresult', hperm.isEmpty_eq]

/-- Two effects have one tally apart from the former names that failures tell. -/
def SamePlainTally (e e' : Effect) : Prop :=
  SameTally (e.map id Failure.plain) (e'.map id Failure.plain)

/-- The tally of an effect with other failures. -/
theorem tally_map (f : Failure → Failure) (e : Effect) :
    (e.map id f).tally = e.tally.map fun x => (x.1, Multiset.map f x.2) := by
  cases h : e.result <;> simp [tally, map, h]

/-- One tally is one apart from former names. -/
theorem SameTally.samePlainTally {e e' : Effect} (h : SameTally e e') : SamePlainTally e e' := by
  rw [SamePlainTally, SameTally, tally_map, tally_map, h]

/-- Tallies apart from former names do not depend on words. -/
theorem SamePlainTally.wordingRelation : WordingRelation .all SamePlainTally where
  accepted := rfl
  both ha hb := by
    rw [SamePlainTally, map_both, map_both]
    exact SameTally.stepRelation.both ha hb
  branch ha hb hc := by
    rw [SamePlainTally, map_branch, map_branch]
    exact SameTally.stepRelation.branch ha hb hc
  orElse ha hb := by
    rw [SamePlainTally, map_orElse, map_orElse]
    exact SameTally.stepRelation.orElse ha hb
  refl _ := rfl
  trans := Eq.trans
  failed hkind := by
    simp only [SamePlainTally, map_failed, Failure.plain, hkind]
    rfl
  missing subject place _ _ hperm :=
    (Walk.Alike.every_of_perm hperm fun _ _ => (Walk.HasEffect.failed _ _ _ _).alike_self).imp
      fun _ _ h => h.samePlainTally

end Effect

/-! ## The walk -/

/-- Shortfalls that differ in former names are failures that differ in them. -/
theorem Shortfall.plain_failure_eq {s s' : Shortfall} (h : s.plain = s'.plain)
    (tried : List Fallback) : (s.failure tried).plain = (s'.failure tried).plain := by
  cases s <;> cases s' <;> simp_all [plain, failure, FailureKind.plain]

namespace Ruleset

variable {p : Provider} {mode : RecordMode} {r r' : Ruleset} {subject : Value} {place : Location}
  {R : Effect → Effect → Prop}

/-- A ruleset that asks of a subject itself what another one asks, maybe by rules with other former
names. -/
structure AsksLike (r r' : Ruleset) : Prop where
  typeRules : r'.typeRules.map Rule.plain = r.typeRules.map Rule.plain
  patternRules : r'.patternRules.map Rule.plain = r.patternRules.map Rule.plain
  nullable : r'.nullable = r.nullable
  emptiness : r'.emptiness = r.emptiness
  alternativeEnum : r'.alternativeEnum = r.alternativeEnum
  fallbacks : r'.fallbacks = r.fallbacks

/-- The main rules give the same answer apart from former names. -/
theorem AsksLike.plain_mainVerdict_eq (h : r.AsksLike r') (p : Provider) (subject : Value) :
    (p.mainVerdict r' subject).map MainVerdict.plain =
      (p.mainVerdict r subject).map MainVerdict.plain := by
  rw [← p.mainVerdict_plainWith subject r' id, ← p.mainVerdict_plainWith subject r id]
  simp only [Provider.mainVerdict, plainWith, h.typeRules, h.patternRules, h.nullable, h.emptiness]
  rfl

/-- Answers that differ in former names lead two walks the same way. -/
theorem answersInStep_of_plain_eq {failed failed' : Shortfall → Effect}
    {a a' : Except ProviderError MainVerdict}
    (h : a'.map MainVerdict.plain = a.map MainVerdict.plain) (hrefl : ∀ e, R e e)
    (hfailed : ∀ s s' : Shortfall, s'.plain = s.plain → R (failed s) (failed' s')) :
    AnswersInStep R failed failed' a a' := by
  cases a with
  | error e =>
    cases a' with
    | error e' =>
      obtain rfl : e' = e := by simpa [Except.map] using h
      exact .error (hrefl _)
    | ok v' => simp [Except.map] at h
  | ok v =>
    cases a' with
    | error e' => simp [Except.map] at h
    | ok v' =>
      have hplain : v'.plain = v.plain := by simpa [Except.map] using h
      cases v <;> cases v' <;> simp only [MainVerdict.plain, reduceCtorEq, MainVerdict.passed.injEq,
        MainVerdict.failed.injEq] at hplain
      · exact .settled
      · exact hplain ▸ .passed _
      · exact .failed (hfailed _ _ hplain)

/-- A ruleset walks a subject in step with another one that asks the same of it, if its fallback, its
table and its list do. -/
theorem AsksLike.inStep_visit (h : r.AsksLike r') (hR : WordingRelation mode R)
    (halternative : Option.Rel (Walk.InStep R)
      (r.alternativeWalk p mode subject place) (r'.alternativeWalk p mode subject place))
    (htable : Option.Rel (fun t t' => ∀ kind, (t kind).InStep R (t' kind))
      (r.tableWalk p mode subject place) (r'.tableWalk p mode subject place))
    (hitems : Option.Rel (fun l l' => ∀ kind, (l kind).InStep R (l' kind))
      (r.itemsWalk p mode subject place) (r'.itemsWalk p mode subject place)) :
    Walk.InStep R (r.visit p mode subject place) (r'.visit p mode subject place) := by
  refine hR.inStep_visit hR.refl
    (answersInStep_of_plain_eq (h.plain_mainVerdict_eq p subject) hR.refl fun s s' hs => ?_)
    h.alternativeEnum (rel_imp halternative fun _ _ ha => hR.leadInStep ha subject) htable hitems
  rw [turnedDown, turnedDown, h.fallbacks]
  exact hR.failed (Shortfall.plain_failure_eq hs.symm _)

end Ruleset

/-- Policies of one name that admit the same keys lead to one walk of a table. -/
theorem visitTable_eq_of_admits {mode : RecordMode} {subject : Value} {place : Location}
    {m m' : Membership} (hname : m'.name = m.name) (hadmits : ∀ key, m'.admits key = m.admits key)
    (elements : List (String × Ruleset)) (declared : String → Option Visit) :
    visitTable mode subject place m' elements declared =
      visitTable mode subject place m elements declared := by
  have hmember (kind : ContainerKind) : visitMember mode subject place kind m' declared =
      visitMember mode subject place kind m declared := by
    funext child
    simp only [visitMember, hname, hadmits]
  funext kind
  simp only [visitTable, hmember]

namespace Ruleset

variable {p : Provider} {mode : RecordMode} {r r' : Ruleset} {subject : Value} {place : Location}
  {R : Effect → Effect → Prop}

/-- A ruleset walks as before with a policy of the same name that admits the same keys. -/
theorem visit_withMembership_eq {t : TableElements Ruleset} {m : Membership}
    (declares : r.tableElements = some t) (hname : m.name = t.membership.name)
    (hadmits : ∀ key, m.admits key = t.membership.admits key) :
    (r.withTableElements { t with membership := m }).visit p mode subject place =
      r.visit p mode subject place := by
  have htable : (r.withTableElements { t with membership := m }).tableWalk p mode subject place =
      r.tableWalk p mode subject place := by
    simp only [tableWalk, withTableElements, declares, Option.map_some]
    rw [visitTable_eq_of_admits hname hadmits]
  rw [visit_eq, visit_eq, htable]
  rfl

variable (hR : WordingRelation mode R)

include hR

/-- With another table, a ruleset walks in step with what it was if the table does. -/
theorem inStep_withTableElements {t t' : TableElements Ruleset} (declares : r.tableElements = some t)
    (htable : ∀ kind, Walk.InStep R
      (visitTable mode subject place t.membership t.elements
        (fun key => (Association.lookup key t.elements).map fun q => q.visit p mode) kind)
      (visitTable mode subject place t'.membership t'.elements
        (fun key => (Association.lookup key t'.elements).map fun q => q.visit p mode) kind)) :
    Walk.InStep R (r.visit p mode subject place)
      ((r.withTableElements t').visit p mode subject place) := by
  refine AsksLike.inStep_visit ⟨rfl, rfl, rfl, rfl, rfl, rfl⟩ hR
    (r.inStep_alternativeWalk_refl hR.refl p mode subject place) ?_
    (r.inStep_itemsWalk_refl hR.refl p mode subject place)
  simp only [tableWalk, withTableElements, declares, Option.map_some]
  exact .some htable

/-- A ruleset walks in step with itself in other words. -/
theorem Rewording.inStep_visit (h : Rewording r r') (p : Provider) (subject : Value)
    (place : Location) :
    Walk.InStep R (r.visit p mode subject place) (r'.visit p mode subject place) := by
  cases h with
  | formerNames types_eq patterns_eq =>
    exact AsksLike.inStep_visit ⟨types_eq, patterns_eq, rfl, rfl, rfl, rfl⟩ hR
      (r.inStep_alternativeWalk_refl hR.refl p mode subject place)
      (r.inStep_tableWalk_refl hR.refl p mode subject place)
      (r.inStep_itemsWalk_refl hR.refl p mode subject place)
  | @elements t elements declares distinct order =>
    refine inStep_withTableElements hR declares fun kind => ?_
    have hmissing := ((order.filter fun e =>
      !(Association.keys (children subject)).contains e.1 && !e.2.optional).map Prod.fst).symm
    simp only [Association.lookup_of_perm distinct order]
    refine hR.inStep_both (hR.inStep_every (List.forall₂_same.mpr fun child _ => ?_))
      (hR.missing subject place hmissing)
    exact hR.inStep_visitMember (fun _ _ => hR.refl _)
      (rel_map fun q _ => q.inStep_visit_refl hR.refl p mode _ _)
  | whitelist declares listed order =>
    rw [visit_withMembership_eq declares (by rw [listed]; rfl) fun key => ?_]
    · exact r.inStep_visit_refl hR.refl p mode subject place
    · rw [listed]
      exact order.contains_eq
  | blacklist declares listed order =>
    rw [visit_withMembership_eq declares (by rw [listed]; rfl) fun key => ?_]
    · exact r.inStep_visit_refl hR.refl p mode subject place
    · rw [listed]
      exact congrArg not order.contains_eq

/-- A ruleset walks in step with itself where one ruleset in it is told in other words. -/
theorem inStep_visit_of_rewording (h : Revised Rewording r r') (p : Provider) (subject : Value)
    (place : Location) :
    Walk.InStep R (r.visit p mode subject place) (r'.visit p mode subject place) := by
  induction h generalizing subject place with
  | here change => exact change.inStep_visit hR p subject place
  | @alternative r a a' declares _ ih =>
    have hfallbacks : { r with alternativeRuleSet := some a' }.fallbacks = r.fallbacks := by
      simp [fallbacks, declares]
    refine AsksLike.inStep_visit ⟨rfl, rfl, rfl, rfl, rfl, hfallbacks⟩ hR ?_
      (r.inStep_tableWalk_refl hR.refl p mode subject place)
      (r.inStep_itemsWalk_refl hR.refl p mode subject place)
    simp only [alternativeWalk, declares, Option.map_some]
    exact .some (ih subject place)
  | @element r q q' t key before after declares elements revised ih =>
    refine inStep_withTableElements hR declares fun kind => ?_
    refine hR.inStep_visitTable (fun _ _ => hR.refl _) rfl ?_ fun child _ => ?_
    · have hoptional := revised.optional_eq_of_rewording
      simp only [missingKeys, elements, List.filter_append, List.filter_cons, List.map_append,
        hoptional]
      split <;> rfl
    · have hlookup : Option.Rel
          (fun q q' => ∀ v place, Walk.InStep R (q.visit p mode v place) (q'.visit p mode v place))
          (Association.lookup child.1 t.elements)
          (Association.lookup child.1 (before ++ (key, q') :: after)) := by
        rw [elements]
        exact Association.rel_lookup_replaced (fun q => q.inStep_visit_refl hR.refl p mode) ih
          before after key child.1
      exact rel_map_map hlookup fun _ _ h => h _ _
  | @items r q' l declares _ ih =>
    refine AsksLike.inStep_visit ⟨rfl, rfl, rfl, rfl, rfl, rfl⟩ hR
      (r.inStep_alternativeWalk_refl hR.refl p mode subject place)
      (r.inStep_tableWalk_refl hR.refl p mode subject place) ?_
    simp only [itemsWalk, withListItems, declares, Option.map_some]
    exact .some fun kind =>
      hR.inStep_visitItems (fun _ _ => hR.refl _) rfl (fun _ _ => ih _ _) _ _

/-- A ruleset walks in step with itself in other words, in any rulesets in it. -/
theorem Reworded.inStep_visit (h : r.Reworded r') (p : Provider) (subject : Value)
    (place : Location) :
    Walk.InStep R (r.visit p mode subject place) (r'.visit p mode subject place) := by
  induction h with
  | refl => exact r.inStep_visit_refl hR.refl p mode subject place
  | tail _ hstep ih => exact ih.trans (inStep_visit_of_rewording hR hstep p subject place) hR.trans

end Ruleset

/-! ## The challenge -/

namespace Ruleset

/-- Equality of rulesets is a congruence for challenges. A ruleset in other words, by former names of
rules, the order of declared elements or the order of listed keys, at any depth, leads each challenge to
the same result, be it a verdict or an error. Where the challenge that goes on behind failures comes
to a verdict, its failures are the same, up to their order and apart from former names. -/
theorem challenge_of_reworded {r r' : Ruleset} (h : r.Reworded r') (p : Provider)
    (subject : Value) (keyPath : String) :
    (∀ mode, (r'.challenge p mode subject keyPath).result =
      (r.challenge p mode subject keyPath).result) ∧
    ∀ verdict, (r.challenge p .all subject keyPath).result = .ok verdict →
      ((r'.challenge p .all subject keyPath).record.map Failure.plain).Perm
        ((r.challenge p .all subject keyPath).record.map Failure.plain) := by
  constructor
  · intro mode
    obtain ⟨e, e', he, he', hsame⟩ :=
      h.inStep_visit (Effect.SameResult.wordingRelation mode) p subject ⟨0, keyPath⟩
    rw [challenge_of_hasEffect he, challenge_of_hasEffect he']
    exact hsame.symm
  · intro verdict hverdict
    obtain ⟨e, e', he, he', hsame⟩ :=
      h.inStep_visit Effect.SamePlainTally.wordingRelation p subject ⟨0, keyPath⟩
    rw [challenge_of_hasEffect he] at hverdict ⊢
    rw [challenge_of_hasEffect he']
    have hverdict : e.result = .ok verdict := hverdict
    have hplain : (e.map id Failure.plain).result = .ok verdict := by
      simp only [Effect.map, hverdict, mapError_ok]
    exact (hsame.perm hplain).2

/-- An integer, by a rule with former names. -/
def integerOnce (formerNames : List String) : Ruleset :=
  { ofType "integer" with typeRules := [⟨"integer", .flag, .typeCheck, formerNames⟩] }

/-- A map with integers under some keys and without some others. -/
def integersWithout (elements : List (String × Ruleset)) (keys : List String) : Ruleset :=
  { ofType "loopable" with tableElements := some ⟨elements, .blacklist keys⟩ }

/-- In other words the missing keys are told in another order, and a rule without its former name. -/
theorem integersWithout_reworded :
    let r := integersWithout
      [("a", integerOnce ["int"]), ("b", integerOnce []), ("c", integerOnce [])] ["x", "y"]
    let r' := integersWithout
      [("c", integerOnce []), ("b", integerOnce []), ("a", integerOnce [])] ["y", "x"]
    let subject := Value.object [("a", .string "t"), ("x", .null)]
    r.Reworded r' ∧
      (r'.challenge .standard .first subject "root").result =
        (r.challenge .standard .first subject "root").result ∧
      ((r'.challenge .standard .all subject "root").record.map Failure.plain).Perm
        ((r.challenge .standard .all subject "root").record.map Failure.plain) ∧
      (recordLines (r.challenge .standard .all subject "root").record).length = 4 := by
  intro r r' subject
  have hformer : Revised Rewording (integerOnce ["int"]) (integerOnce []) :=
    .here (@Rewording.formerNames _ (integerOnce []).typeRules [] rfl rfl)
  have horder : Rewording r (integersWithout
      [("c", integerOnce []), ("b", integerOnce []), ("a", integerOnce ["int"])] ["x", "y"]) :=
    @Rewording.elements r ⟨_, _⟩ _ rfl (by decide) (List.reverse_perm
      [("a", integerOnce ["int"]), ("b", integerOnce []), ("c", integerOnce [])])
  have hkeys : Rewording (integersWithout
      [("c", integerOnce []), ("b", integerOnce []), ("a", integerOnce [])] ["x", "y"]) r' :=
    @Rewording.blacklist _ ⟨_, _⟩ ["x", "y"] _ rfl rfl (.swap _ _ _)
  have hreworded : r.Reworded r' :=
    .head (.here horder) <|
    .head (@Revised.element _ _ _ _ _ "a" [("c", _), ("b", _)] [] rfl rfl hformer) <|
    .single (.here hkeys)
  obtain ⟨hresult, hrecord⟩ := challenge_of_reworded hreworded .standard subject "root"
  exact ⟨hreworded, hresult .first, hrecord false rfl, rfl⟩

end Ruleset

end Rulebook
