import Mathlib.Logic.Relation
import Rulebook.Proofs.Challenge.Acceptance
import Rulebook.Proofs.Challenge.Improvement
import Rulebook.Proofs.Challenge.Modes
import Rulebook.Proofs.Ruleset.Fallbacks
import Rulebook.Proofs.Ruleset.Revision

/-!
# Relaxing rulesets

A ruleset is relaxed by making a ruleset in it optional or nullable, by admitting more undeclared keys,
or by loosening the bounds of a list. A subject that was accepted still is, and no error takes the
place of the verdict. Rulesets in general have no such law: behind a fallback that
rescues more, children are looked at that were not before. But fallbacks that are read from descriptions
are bare, and a bare one rescues more by null alone, which has no children.
-/

namespace Rulebook

open Json (Value)

namespace Ruleset

/-- One relaxation of a ruleset itself. -/
inductive Relaxation : Ruleset → Ruleset → Prop
  | optional (r : Ruleset) : Relaxation r { r with optional := true }
  | nullable (r : Ruleset) : Relaxation r { r with nullable := true }
  /-- The table gets a policy that admits what the old one admits among the undeclared keys. -/
  | membership {r : Ruleset} {t : TableElements Ruleset} {m : Membership}
      (declares : r.tableElements = some t)
      (admits : ∀ key ∉ t.keys, t.membership.admits key = true → m.admits key = true) :
      Relaxation r (r.withTableElements { t with membership := m })
  | minOccur {r : Ruleset} {l : ListItems Ruleset} {least : Nat}
      (declares : r.listItems = some l) (le : least ≤ l.minOccur) :
      Relaxation r (r.withListItems { l with minOccur := least })
  | maxOccur {r : Ruleset} {l : ListItems Ruleset} {bound most : Nat}
      (declares : r.listItems = some l) (bounded : l.maxOccur = some bound) (le : bound ≤ most) :
      Relaxation r (r.withListItems { l with maxOccur := some most })
  | unbounded {r : Ruleset} {l : ListItems Ruleset} (declares : r.listItems = some l) :
      Relaxation r (r.withListItems { l with maxOccur := none })

/-- The second ruleset arises from the first by any number of relaxations in it. -/
def Relaxed : Ruleset → Ruleset → Prop := Relation.ReflTransGen (Revised Relaxation)

/-! ## What relaxations leave as it is -/

section Kept

variable {r r' : Ruleset}

/-- What is optional stays so. -/
theorem Revised.optional_of_relaxation (h : Revised Relaxation r r') (hr : r.optional = true) :
    r'.optional = true := by
  cases h with
  | here change => cases change <;> first | rfl | exact hr
  | _ => exact hr

/-- A relaxation leaves the fallback as it is. -/
theorem Relaxation.alternativeRuleSet_eq (h : Relaxation r r') :
    r'.alternativeRuleSet = r.alternativeRuleSet := by
  cases h <;> rfl

/-- A relaxation leaves all parts as they are. -/
theorem Relaxation.parts_eq (h : Relaxation r r') : r'.parts = r.parts := by
  cases h with
  | «optional» | nullable => rfl
  | membership declares => simp [parts, withTableElements, declares]
  | minOccur declares | maxOccur declares | unbounded declares =>
    simp [parts, withListItems, declares]

/-- A bare ruleset can only be made optional or nullable. -/
theorem Bare.of_revised (hr : r.Bare) (h : Revised Relaxation r r') :
    r' = { r with optional := true } ∨ r' = { r with nullable := true } := by
  cases h with
  | here change =>
    cases change with
    | «optional» => exact Or.inl rfl
    | nullable => exact Or.inr rfl
    | membership declares => cases hr.table.symm.trans declares
    | minOccur declares | maxOccur declares | unbounded declares =>
      cases hr.items.symm.trans declares
  | alternative declares => cases hr.alternative.symm.trans declares
  | element declares => cases hr.table.symm.trans declares
  | items declares => cases hr.items.symm.trans declares

/-- A bare fallback stays bare. -/
theorem BareFallback.of_revised (h : Revised Relaxation r r') (hr : r.BareFallback) :
    r'.BareFallback := by
  cases h with
  | here change =>
    rw [BareFallback, change.alternativeRuleSet_eq]
    exact hr
  | alternative declares revised =>
    rintro b hb
    obtain rfl := Option.some.inj hb
    have ha := hr _ declares
    rcases ha.of_revised revised with rfl | rfl <;> exact ⟨ha.alternative, ha.table, ha.items⟩
  | element => exact hr
  | items => exact hr

/-- Bare fallbacks stay bare everywhere. -/
theorem bareFallbacks_of_revised (h : Revised Relaxation r r') (hr : r.Everywhere BareFallback) :
    r'.Everywhere BareFallback := by
  refine h.everywhere (fun change hq => .node ?_ ?_) (fun revised hq => hq.of_revised revised) hr
  · exact hq.here.of_revised (.here change)
  · rw [change.parts_eq]
    exact hq.parts

end Kept

/-! ## The walk -/

variable {p : Provider} {r r' : Ruleset} {subject : Value} {place : Location}

/-- Every ruleset improves on itself. -/
theorem improved_refl (p : Provider) (r : Ruleset) (subject : Value) (place : Location) :
    (r.visit p .all subject place).ImprovedBy (r.visit p .all subject place) :=
  r.inStep_visit_refl .refl p .all subject place

/-- Of subjects other than null, a bare ruleset that was relaxed says what it did. -/
theorem Bare.visit_eq_of_revised (hr : r.Bare) (h : Revised Relaxation r r')
    (hnull : subject.isNull = false) (mode : RecordMode) :
    r.visit p mode subject place = r'.visit p mode subject place := by
  rw [visit_eq, visit_eq]
  rcases hr.of_revised h with rfl | rfl
  · rfl
  · have hmain : p.mainVerdict { r with nullable := true } subject = p.mainVerdict r subject := by
      simp [Provider.mainVerdict, hnull]
    simp only [visitNode, hmain]
    rfl

/-- A ruleset that has the main rules and the fallback values of another one, and allows null if that
does. -/
structure AllowsLike (r r' : Ruleset) : Prop where
  typeRules : r'.typeRules = r.typeRules
  patternRules : r'.patternRules = r.patternRules
  emptiness : r'.emptiness = r.emptiness
  alternativeEnum : r'.alternativeEnum = r.alternativeEnum
  nullable : r.nullable = true → r'.nullable = true

/-- The main rules say the same, or let null pass. -/
theorem AllowsLike.mainVerdict_eq (h : r.AllowsLike r') (p : Provider) (subject : Value) :
    p.mainVerdict r' subject = p.mainVerdict r subject ∨
      p.mainVerdict r' subject = .ok .settled := by
  unfold Provider.mainVerdict
  cases subject.isNull with
  | true =>
    cases hnullable' : r'.nullable with
    | true => exact Or.inr rfl
    | false =>
      have hnullable : r.nullable = false := by
        simpa [hnullable'] using mt h.nullable
      exact Or.inl (by simp only [if_true, hnullable])
  | false =>
    left
    simp only [Bool.false_eq_true, if_false, h.typeRules, h.emptiness, h.patternRules]

/-- A ruleset walks a subject to a better verdict than another one with its main rules, if its fallback,
its table and its list do. -/
theorem AllowsLike.improved_visit (h : r.AllowsLike r')
    (halternative : Option.Rel (Walk.LeadInStep Effect.Improved subject)
      (r.alternativeWalk p .all subject place) (r'.alternativeWalk p .all subject place))
    (htable : Option.Rel (fun t t' => ∀ kind, (t kind).ImprovedBy (t' kind))
      (r.tableWalk p .all subject place) (r'.tableWalk p .all subject place))
    (hitems : Option.Rel (fun l l' => ∀ kind, (l kind).ImprovedBy (l' kind))
      (r.itemsWalk p .all subject place) (r'.itemsWalk p .all subject place)) :
    (r.visit p .all subject place).ImprovedBy (r'.visit p .all subject place) := by
  rcases h.mainVerdict_eq p subject with hsame | hsettled
  · exact Effect.Improved.childRelation.inStep_visit .refl
      (.of_eq hsame.symm (fun _ _ => .refl _) fun _ _ verdict hfalse => ⟨verdict, hfalse, id⟩)
      h.alternativeEnum halternative htable hitems
  · have hvisit := r.exists_hasEffect_visit p .all subject place
    rw [r'.visit_eq]
    by_cases hdeep : maxDepth < place.depth
    · rw [r.visit_eq, visitNode_of_deep hdeep, visitNode_of_deep hdeep]
      exact Walk.InStep.aborted (.refl _)
    · rw [visitNode_of_settled hdeep hsettled]
      exact .accepted hvisit

/-- The fallback of a ruleset leads on to no worse than it does. -/
theorem leadInStep_refl (p : Provider) (r : Ruleset) (subject : Value) (place : Location) :
    Option.Rel (Walk.LeadInStep Effect.Improved subject)
      (r.alternativeWalk p .all subject place) (r.alternativeWalk p .all subject place) :=
  rel_map fun a _ => (a.improved_refl p subject place).leadInStep fun _ => rfl

/-- A ruleset improves with a better table. -/
theorem improved_withTableElements {t t' : TableElements Ruleset}
    (declares : r.tableElements = some t)
    (hadmits : ∀ key ∉ t.keys, t.membership.admits key = true → t'.membership.admits key = true)
    (hmissing : missingKeys subject t.elements = [] → missingKeys subject t'.elements = [])
    (hdeclared : ∀ key, Option.Rel
      (fun q q' => ∀ v place, (q.visit p .all v place).ImprovedBy (q'.visit p .all v place))
      (Association.lookup key t.elements) (Association.lookup key t'.elements)) :
    (r.visit p .all subject place).ImprovedBy
      ((r.withTableElements t').visit p .all subject place) := by
  refine AllowsLike.improved_visit ⟨rfl, rfl, rfl, rfl, id⟩ (r.leadInStep_refl p subject place) ?_
    (r.inStep_itemsWalk_refl .refl p .all subject place)
  simp only [tableWalk, withTableElements, declares, Option.map_some]
  refine .some fun kind => improved_visitTable (fun key hundeclared => hadmits key ?_) hmissing
    fun child _ => ?_
  · rw [TableElements.keys, ← Association.isSome_lookup_iff]
    simpa using hundeclared
  · exact rel_map_map (hdeclared child.1) fun _ _ h => h _ _

/-- A ruleset improves with a better list. -/
theorem improved_withListItems {l l' : ListItems Ruleset} (declares : r.listItems = some l)
    (hleast : l'.minOccur ≤ l.minOccur) (hmost : AtMost l.maxOccur l'.maxOccur)
    (hrules : ∀ v place,
      (l.itemRules.visit p .all v place).ImprovedBy (l'.itemRules.visit p .all v place)) :
    (r.visit p .all subject place).ImprovedBy
      ((r.withListItems l').visit p .all subject place) := by
  refine AllowsLike.improved_visit ⟨rfl, rfl, rfl, rfl, id⟩ (r.leadInStep_refl p subject place)
    (r.inStep_tableWalk_refl .refl p .all subject place) ?_
  simp only [itemsWalk, withListItems, declares, Option.map_some]
  exact .some fun kind => improved_visitItems hleast hmost fun _ _ => hrules _ _

/-- A ruleset improves by one relaxation of itself. -/
theorem Relaxation.improved_visit (h : Relaxation r r') (p : Provider) (subject : Value)
    (place : Location) : (r.visit p .all subject place).ImprovedBy (r'.visit p .all subject place) := by
  have hlist (l : ListItems Ruleset) (v : Value) (place : Location) :=
    l.itemRules.improved_refl p v place
  cases h with
  | «optional» =>
    exact AllowsLike.improved_visit ⟨rfl, rfl, rfl, rfl, id⟩ (r.leadInStep_refl p _ _)
      (r.inStep_tableWalk_refl .refl p .all _ _) (r.inStep_itemsWalk_refl .refl p .all _ _)
  | nullable =>
    exact AllowsLike.improved_visit ⟨rfl, rfl, rfl, rfl, fun _ => rfl⟩ (r.leadInStep_refl p _ _)
      (r.inStep_tableWalk_refl .refl p .all _ _) (r.inStep_itemsWalk_refl .refl p .all _ _)
  | membership declares admits =>
    exact improved_withTableElements declares admits id fun _ => rel_self fun q _ => q.improved_refl p
  | minOccur declares le => exact improved_withListItems declares le (.refl _) (hlist _)
  | maxOccur declares bounded le =>
    refine improved_withListItems declares le_rfl (fun most hmost => ⟨_, bounded, ?_⟩) (hlist _)
    exact Option.some.inj hmost ▸ le
  | unbounded declares =>
    exact improved_withListItems declares le_rfl (fun _ hmost => by cases hmost) (hlist _)

/-- A ruleset with bare fallbacks improves by one relaxation in it. -/
theorem improved_visit_of_revised (h : Revised Relaxation r r') (hbare : r.Everywhere BareFallback)
    (p : Provider) (subject : Value) (place : Location) :
    (r.visit p .all subject place).ImprovedBy (r'.visit p .all subject place) := by
  induction h generalizing subject place with
  | here change => exact change.improved_visit p subject place
  | @alternative r a a' declares revised ih =>
    have ha := ih (hbare.parts a (mem_parts_of_alternative declares)) subject place
    refine AllowsLike.improved_visit ⟨rfl, rfl, rfl, rfl, id⟩ ?_
      (r.inStep_tableWalk_refl .refl p .all _ _) (r.inStep_itemsWalk_refl .refl p .all _ _)
    simp only [alternativeWalk, declares, Option.map_some]
    -- only null may be rescued that was not before, and behind it there are no children to look at
    exact .some (ha.leadInStep fun hnull =>
      (hbare.here a declares).visit_eq_of_revised revised hnull .all)
  | @element r q q' t key before after declares elements revised ih =>
    have hq : (key, q) ∈ t.elements := by simp [elements]
    refine improved_withTableElements declares (fun _ _ => id) (fun hmissing => ?_) fun k => ?_
    · -- the key of the element may be missing if the element has become optional
      rw [missingKeys_eq_nil_iff, elements] at hmissing
      rw [missingKeys_eq_nil_iff]
      simp only [List.forall_mem_append, List.forall_mem_cons] at hmissing ⊢
      obtain ⟨hbefore, hhere, hafter⟩ := hmissing
      exact ⟨hbefore, hhere.imp_left revised.optional_of_relaxation, hafter⟩
    · rw [elements]
      exact Association.rel_lookup_replaced (fun q => q.improved_refl p)
        (ih (hbare.parts _ (mem_parts_of_element declares hq))) before after key k
  | items declares revised ih =>
    exact improved_withListItems declares le_rfl (.refl _)
      (ih (hbare.parts _ (mem_parts_of_items declares)))

/-- A ruleset with bare fallbacks improves by any relaxations in it. -/
theorem Relaxed.improved_visit (h : r.Relaxed r') (hbare : r.Everywhere BareFallback)
    (p : Provider) (subject : Value) (place : Location) :
    (r.visit p .all subject place).ImprovedBy (r'.visit p .all subject place) := by
  have hrun : r'.Everywhere BareFallback ∧
      (r.visit p .all subject place).ImprovedBy (r'.visit p .all subject place) := by
    induction h with
    | refl => exact ⟨hbare, r.improved_refl p subject place⟩
    | tail _ hstep ih =>
      obtain ⟨hmiddle, himproved⟩ := ih
      exact ⟨bareFallbacks_of_revised hstep hmiddle,
        Walk.InStep.trans himproved (improved_visit_of_revised hstep hmiddle p subject place)
          fun h h' => h.trans h'⟩
  exact hrun.2

/-- Relaxing a ruleset never rejects more. Wherever the challenge that goes on behind failures accepts a
subject, every challenge with a relaxed ruleset does so too, in every mode and under every provider. The
fallbacks of the ruleset are bare, which they are in all that is built. -/
theorem challenge_of_relaxed :
    (∀ p r, Piece.Built p (.ruleset r) → r.Everywhere BareFallback) ∧
    ∀ (p : Provider) (r r' : Ruleset), r.Everywhere BareFallback → r.Relaxed r' →
      ∀ subject keyPath, (r.challenge p .all subject keyPath).result = .ok true →
        ∀ mode, (r'.challenge p mode subject keyPath).result = .ok true := by
  refine ⟨fun p r hbuilt => hbuilt.bareFallbacks, ?_⟩
  intro p r r' hbare hrelaxed subject keyPath haccepted mode
  obtain ⟨e, e', he, he', himproved⟩ := hrelaxed.improved_visit hbare p subject ⟨0, keyPath⟩
  rw [challenge_of_hasEffect he] at haccepted
  obtain ⟨effects, heffects, hmodes⟩ :=
    SameVerdict.stepInvariant.hasEffects_visit p r' subject ⟨0, keyPath⟩
  have hall : (effects .all).result = .ok true := by
    rw [(heffects .all).unique he']
    exact himproved.result_of_true haccepted
  rw [challenge_of_hasEffect (heffects mode)]
  exact hmodes.of_all hall mode

/-- A number or a text, or null if the text may be null. -/
def numberOrText (nullable : Bool) : Ruleset :=
  { ofType "integer" with
    alternativeRuleSet := some { ofType "string" with nullable := nullable } }

/-- A list of one text or more. -/
def texts (optional : Bool) (most : Option Nat) : Ruleset :=
  { ofType "loopable" with
    optional := optional
    listItems := some ⟨1, most, ofType "string"⟩ }

/-- A map with what is said of an identifier and of tags. -/
def tagged (id tags : Ruleset) (membership : Membership) : Ruleset :=
  { ofType "loopable" with
    tableElements := some ⟨[("id", id), ("tags", tags)], membership⟩ }

/-- The description of a map with an identifier and one or two tags, to which a note may be added. -/
def taggedDescription : Value :=
  .object
    [("tableElements", .object
      [("rulesByElements", .object
        [("id", .object [("integer", .bool true), ("alternativeRuleSet", .string "string")]),
        ("tags", .object
          [("listItems", .object
            [("itemRules", .string "string"), ("minOccur", .number (.int 1)),
            ("maxOccur", .number (.int 2))])])]),
      ("whitelist", .array [.string "note"])])]

/-- Four relaxations at three depths keep what was accepted, and accept a null without tags as well. -/
theorem tagged_relaxed :
    let r := tagged (numberOrText false) (texts false (some 2)) (.whitelist ["note"])
    let r' := tagged (numberOrText true) (texts true none) (.blacklist ["secret"])
    let subject := Value.object
      [("id", .number (.int 7)), ("note", .bool true), ("tags", .array [.string "a", .string "b"])]
    let other := Value.object [("id", .null), ("more", .number (.int 1))]
    ofDescriptionAt .standard taggedDescription .root = .ok r ∧ r.Relaxed r' ∧
      (r.challenge .standard .all subject "root").result = .ok true ∧
      (r'.challenge .standard .off subject "root").result = .ok true ∧
      (r.challenge .standard .all other "root").result = .ok false ∧
      (r'.challenge .standard .all other "root").result = .ok true := by
  intro r r' subject other
  have hid : Revised Relaxation (numberOrText false) (numberOrText true) :=
    .alternative rfl (.here (.nullable _))
  have hoptional : Revised Relaxation (texts false (some 2)) (texts true (some 2)) :=
    .here (.optional _)
  have hunbounded : Revised Relaxation (texts true (some 2)) (texts true none) :=
    .here (@Relaxation.unbounded _ ⟨1, some 2, ofType "string"⟩ rfl)
  have hadmits : Relaxation (tagged (numberOrText true) (texts true none) (.whitelist ["note"])) r' := by
    refine @Relaxation.membership _ ⟨_, _⟩ _ rfl fun key _ hkey => ?_
    obtain rfl : key = "note" := by simpa [Membership.admits] using hkey
    rfl
  have hrelaxed : r.Relaxed r' :=
    .head (@Revised.element _ _ _ _ _ "id" [] [("tags", _)] rfl rfl hid) <|
    .head (@Revised.element _ _ _ _ _ "tags" [("id", _)] [] rfl rfl hoptional) <|
    .head (@Revised.element _ _ _ _ _ "tags" [("id", _)] [] rfl rfl hunbounded) <|
    .single (.here hadmits)
  have hread : ofDescriptionAt .standard taggedDescription .root = .ok r := rfl
  have hdistinct : taggedDescription.KeysDistinct := by
    simp [taggedDescription, Association.keys, Value.KeysDistinct, Value.ItemsKeysDistinct,
      Value.MembersKeysDistinct]
  have hbare : r.Everywhere BareFallback := challenge_of_relaxed.1 _ r (.read hdistinct hread)
  have haccepted : (r.challenge .standard .all subject "root").result = .ok true := rfl
  refine ⟨hread, hrelaxed, haccepted, ?_, rfl, rfl⟩
  exact challenge_of_relaxed.2 .standard r r' hbare hrelaxed subject "root" haccepted .off

/-- A list of lists, or one whose first item is rescued if it has no more than so many integers, and has
then to pass a rule that no provider knows. -/
def rescuedByLength (most : Nat) : Ruleset :=
  { ofType "loopable" with
    tableElements := some ⟨[("0", { ofType "integer" with
      alternativeRuleSet := some
        { ofType "loopable" with listItems := some ⟨0, some most, ofType "integer"⟩ }
      listItems := some ⟨0, none, ofType "unheard"⟩ })], .open⟩
    listItems := some ⟨0, none, ofType "loopable"⟩ }

/-- A fallback that is not bare may be relaxed to the harm of a subject: room for one item more turns
a verdict into an error. -/
example :
    let subject := Value.array [.array [.number (.int 1)]]
    ((rescuedByLength 0).challenge .standard .all subject "root").result = .ok true ∧
    ((rescuedByLength 1).challenge .standard .all subject "root").result =
      .error (.provider (.unknownRule "unheard")) :=
  ⟨rfl, rfl⟩

end Ruleset

end Rulebook
