import Mathlib.Data.List.Induction
import Rulebook.Description.Reading
import Rulebook.Proofs.Description.Statements
import Rulebook.Standard.Provider

/-!
# The partition of entries

Reading a description sorts its entries. Type-checking rules come first and then pattern rules, each kind
in the order of the entries; every other entry settles its own part of the ruleset. Nothing is dropped,
doubled or made up, apart from one guard where no type-checking rule is declared. A ruleset is read exactly
if every entry says something, no two of them about the same name, and there is such a collection of what
they say.
-/

namespace Rulebook

open Json (Value)

/-- The type-checking rules for what was said: those that were declared, or else one guard, for children
or for the first pattern rule, or none where nothing but emptiness is asked for. -/
inductive TypeRules (p : Provider) (said : List Statement) : List Rule → Prop
  | declared (some_declared : said.filterMap Statement.typeRule? ≠ []) :
      TypeRules p said (said.filterMap Statement.typeRule?)
  | containers (none_declared : said.filterMap Statement.typeRule? = [])
      (children : (∃ t, .tableElements t ∈ said) ∨ ∃ l, .listItems l ∈ said) :
      TypeRules p said [Draft.injected p.containerGuard]
  | firstPattern (none_declared : said.filterMap Statement.typeRule? = [])
      (childless : ¬((∃ t, .tableElements t ∈ said) ∨ ∃ l, .listItems l ∈ said))
      {tag : TypeTag} {q : Rule} {guard : String}
      (first : (said.filterMap Statement.patternRule?).head? = some (tag, q))
      (guards : p.typeGuard tag = some guard) : TypeRules p said [Draft.injected guard]
  | unguarded (none_declared : said.filterMap Statement.typeRule? = [])
      (childless : ¬((∃ t, .tableElements t ∈ said) ∨ ∃ l, .listItems l ∈ said))
      (patternless : said.filterMap Statement.patternRule? = [])
      (flagged : .empty true ∈ said ∨ .nonEmpty true ∈ said) : TypeRules p said []

/-- A ruleset collects what was said: the rules in order, and everything else in a part of its own. A value
null that rescues a subject makes the ruleset nullable instead of being listed. -/
structure Ruleset.Collects (p : Provider) (said : List Statement) (r : Ruleset) : Prop where
  typeRules : TypeRules p said r.typeRules
  patternRules : r.patternRules = (said.filterMap Statement.patternRule?).map Prod.snd
  optional : r.optional = true ↔ .optional true ∈ said
  nullable : r.nullable = true ↔
    .nullable true ∈ said ∨ ∃ values, .alternativeEnum values ∈ said ∧ .null ∈ values
  empty : r.emptiness = some .empty ↔ .empty true ∈ said
  nonEmpty : r.emptiness = some .nonEmpty ↔ .nonEmpty true ∈ said
  alternativeEnum : ∀ values, r.alternativeEnum = some values ↔
    values ≠ [] ∧ ∃ listed, .alternativeEnum listed ∈ said ∧
      values = listed.filter fun v => !v.isNull
  alternativeRuleSet : ∀ a, r.alternativeRuleSet = some a ↔ .alternativeRuleSet a ∈ said
  tableElements : ∀ t, r.tableElements = some t ↔ .tableElements t ∈ said
  listItems : ∀ l, r.listItems = some l ↔ .listItems l ∈ said

/-! ## Drafts -/

/-- Some listed value is null if null is listed. -/
theorem any_isNull_iff {values : List Value} : values.any Value.isNull = true ↔ .null ∈ values := by
  rw [List.any_eq_true]
  constructor
  · rintro ⟨v, hv, hnull⟩
    cases v <;> simp_all [Value.isNull]
  · exact fun h => ⟨.null, h, rfl⟩

namespace Draft

variable {p : Provider} {said : List Statement} {draft : Draft}

/-- What a draft holds of the statements that it has taken. -/
structure Gathers (said : List Statement) (draft : Draft) : Prop where
  typeRules : draft.typeRules = said.filterMap Statement.typeRule?
  patternRules : draft.patternRules = (said.filterMap Statement.patternRule?).map Prod.snd
  firstPattern : draft.firstPattern =
    (said.filterMap Statement.patternRule?).head?.map fun first => (first.1, first.2.name)
  optional : draft.optional = true ↔ .optional true ∈ said
  nullable : draft.nullable = true ↔
    .nullable true ∈ said ∨ ∃ values, .alternativeEnum values ∈ said ∧ .null ∈ values
  empty : draft.empty = true ↔ .empty true ∈ said
  nonEmpty : draft.nonEmpty = true ↔ .nonEmpty true ∈ said
  alternativeEnum : ∀ values, draft.alternativeEnum = some values ↔
    values ≠ [] ∧ ∃ listed, .alternativeEnum listed ∈ said ∧
      values = listed.filter fun v => !v.isNull
  alternativeRuleSet : ∀ a, draft.alternativeRuleSet = some a ↔ .alternativeRuleSet a ∈ said
  tableElements : ∀ t, draft.tableElements = some t ↔ .tableElements t ∈ said
  listItems : ∀ l, draft.listItems = some l ↔ .listItems l ∈ said

/-- Nothing has been taken. -/
theorem gathers_blank : blank.Gathers [] := by
  constructor <;> simp [blank]

/-- One more statement about a new name is taken. -/
theorem Gathers.note (h : draft.Gathers said) {s : Statement}
    (hnew : s.name ∉ said.map Statement.name) : (draft.note s).Gathers (said ++ [s]) := by
  -- what is said about a part was not said before, since its name is new
  have hfresh (s' : Statement) (hname : s'.name = s.name) : s' ∉ said :=
    fun hmem => hnew (hname ▸ List.mem_map_of_mem hmem)
  obtain ⟨htypes, hpatterns, hfirst, hoptional, hnullable, hempty, hnonEmpty, henum, halternative,
    htable, hitems⟩ := h
  cases s with
  | typeRule q => constructor <;> simp [Draft.note, Statement.typeRule?, Statement.patternRule?, *]
  | patternRule tag q =>
    have hhead : (draft.firstPattern <|> some (tag, q.name)) =
        (said.filterMap Statement.patternRule? ++ [(tag, q)]).head?.map
          fun first => (first.1, first.2.name) := by
      rw [hfirst, List.head?_append]
      cases (said.filterMap Statement.patternRule?).head? <;> rfl
    have hrules : (said ++ [Statement.patternRule tag q]).filterMap Statement.patternRule? =
        said.filterMap Statement.patternRule? ++ [(tag, q)] := by
      simp [Statement.patternRule?]
    constructor
    case firstPattern => rw [hrules, ← hhead]; rfl
    all_goals simp [Draft.note, addPattern, Statement.typeRule?, Statement.patternRule?, *]
  | optional b =>
    have hnone := hfresh (.optional true) rfl
    constructor <;> simp [Draft.note, Statement.typeRule?, Statement.patternRule?, *]
  | nullable b =>
    have hnone := hfresh (.nullable true) rfl
    constructor <;> simp [Draft.note, Statement.typeRule?, Statement.patternRule?, or_comm, *]
  | empty b =>
    have hnone := hfresh (.empty true) rfl
    constructor <;> simp [Draft.note, Statement.typeRule?, Statement.patternRule?, *]
  | nonEmpty b =>
    have hnone := hfresh (.nonEmpty true) rfl
    constructor <;> simp [Draft.note, Statement.typeRule?, Statement.patternRule?, *]
  | alternativeEnum listed =>
    have hnone (values : List Value) := hfresh (.alternativeEnum values) rfl
    have hvalues (values : List Value) :
        (if (listed.filter fun v => !v.isNull).isEmpty then none
          else some (listed.filter fun v => !v.isNull)) = some values ↔
        values ≠ [] ∧ values = listed.filter fun v => !v.isNull := by
      cases listed.filter fun v => !v.isNull <;> simp +contextual [eq_comm]
    constructor <;>
      simp only [Draft.note, hvalues, Bool.or_eq_true, any_isNull_iff]
    all_goals simp [Statement.typeRule?, Statement.patternRule?, *]
  | alternativeRuleSet a =>
    have hnone (a : Ruleset) := hfresh (.alternativeRuleSet a) rfl
    constructor <;> simp [Draft.note, Statement.typeRule?, Statement.patternRule?, *]
    exact fun _ => eq_comm
  | tableElements t =>
    have hnone (t : TableElements Ruleset) := hfresh (.tableElements t) rfl
    constructor <;> simp [Draft.note, Statement.typeRule?, Statement.patternRule?, *]
    exact fun _ => eq_comm
  | listItems l =>
    have hnone (l : ListItems Ruleset) := hfresh (.listItems l) rfl
    constructor <;> simp [Draft.note, Statement.typeRule?, Statement.patternRule?, *]
    exact fun _ => eq_comm

/-- Statements about distinct names are taken one after the other. -/
theorem gathers_foldl (hdistinct : (said.map Statement.name).Nodup) :
    (said.foldl Draft.note blank).Gathers said := by
  -- by the last statement, which is new to those in front of it
  induction said using List.reverseRecOn with
  | nil => exact gathers_blank
  | append_singleton said s ih =>
    rw [List.map_append, List.nodup_append] at hdistinct
    obtain ⟨hbefore, -, hapart⟩ := hdistinct
    rw [List.foldl_append]
    exact (ih hbefore).note fun hmem => hapart _ hmem _ (List.mem_singleton_self _) rfl

/-! ## Finishing -/

namespace Gathers

variable (h : draft.Gathers said)

include h

/-- The flags say what was said about empty subjects. -/
theorem emptiness_ok_iff {emptiness : Option Emptiness} :
    draft.emptiness = .ok emptiness ↔
      (emptiness = some .empty ↔ .empty true ∈ said) ∧
        (emptiness = some .nonEmpty ↔ .nonEmpty true ∈ said) := by
  rw [← h.empty, ← h.nonEmpty]
  unfold Draft.emptiness
  rcases emptiness with _ | _ | _ <;> cases draft.empty <;> cases draft.nonEmpty <;> simp

/-- Children were spoken of if the draft has rules for them. -/
theorem hasChildren_iff :
    (draft.tableElements.isSome || draft.listItems.isSome) = true ↔
      (∃ t, .tableElements t ∈ said) ∨ ∃ l, .listItems l ∈ said := by
  simp only [Bool.or_eq_true, Option.isSome_iff_exists, h.tableElements, h.listItems]

/-- The type-checking rules of a draft are those for what was said. -/
theorem guarded_ok_iff {emptiness : Option Emptiness} (hemptiness : draft.emptiness = .ok emptiness)
    {types : List Rule} : draft.guarded p emptiness = .ok types ↔ TypeRules p said types := by
  have hflags : emptiness.isSome = true ↔ .empty true ∈ said ∨ .nonEmpty true ∈ said := by
    obtain ⟨hempty, hnonEmpty⟩ := h.emptiness_ok_iff.mp hemptiness
    rw [← hempty, ← hnonEmpty]
    rcases emptiness with _ | _ | _ <;> simp
  have hfirst := h.firstPattern
  unfold Draft.guarded
  rw [h.typeRules]
  constructor
  · intro hguarded
    split at hguarded
    · next hdeclared =>
      obtain rfl := Except.ok.inj hguarded
      exact .declared (by simpa using hdeclared)
    · next hdeclared =>
      have hnone : said.filterMap Statement.typeRule? = [] := by simpa using hdeclared
      split at hguarded
      · next hchildren =>
        obtain rfl := Except.ok.inj hguarded
        exact .containers hnone (h.hasChildren_iff.mp hchildren)
      · next hchildren =>
        have hchildless := mt h.hasChildren_iff.mpr hchildren
        cases hhead : (said.filterMap Statement.patternRule?).head? with
        | none =>
          rw [hhead, Option.map_none] at hfirst
          simp only [hfirst] at hguarded
          split at hguarded
          · next hflagged =>
            obtain rfl := Except.ok.inj hguarded
            exact .unguarded hnone hchildless (List.head?_eq_none_iff.mp hhead)
              (hflags.mp hflagged)
          · cases hguarded
        | some first =>
          rw [hhead, Option.map_some] at hfirst
          simp only [hfirst] at hguarded
          split at hguarded
          · next guard hguard =>
            obtain rfl := Except.ok.inj hguarded
            exact .firstPattern hnone hchildless hhead hguard
          · cases hguarded
  · intro htypes
    cases htypes with
    | declared hdeclared => rw [if_pos (by simpa using hdeclared)]
    | containers hnone hchildren =>
      rw [if_neg (by simp [hnone]), if_pos (h.hasChildren_iff.mpr hchildren)]
    | firstPattern hnone hchildless hhead hguard =>
      rw [if_neg (by simp [hnone]), if_neg (mt h.hasChildren_iff.mp hchildless), hfirst, hhead]
      simp only [Option.map_some, hguard]
    | unguarded hnone hchildless hpatternless hflagged =>
      rw [if_neg (by simp [hnone]), if_neg (mt h.hasChildren_iff.mp hchildless), hfirst,
        hpatternless]
      simp [hflags.mpr hflagged]

/-- A draft is finished to the ruleset that collects what was said. -/
theorem finish_ok_iff {r : Ruleset} : draft.finish p = .ok r ↔ r.Collects p said := by
  simp only [Draft.finish, bind_ok_iff]
  constructor
  · rintro ⟨emptiness, hemptiness, types, htypes, heq⟩
    obtain rfl := Except.ok.inj heq
    obtain ⟨hempty, hnonEmpty⟩ := h.emptiness_ok_iff.mp hemptiness
    exact ⟨(h.guarded_ok_iff hemptiness).mp htypes, h.patternRules, h.optional, h.nullable, hempty,
      hnonEmpty, h.alternativeEnum, h.alternativeRuleSet, h.tableElements, h.listItems⟩
  · intro hcollects
    have hemptiness := h.emptiness_ok_iff.mpr ⟨hcollects.empty, hcollects.nonEmpty⟩
    refine ⟨_, hemptiness, _, (h.guarded_ok_iff hemptiness).mpr hcollects.typeRules, ?_⟩
    have hpatterns := h.patternRules.trans hcollects.patternRules.symm
    have hoptional := Bool.eq_iff_iff.mpr (h.optional.trans hcollects.optional.symm)
    have hnullable := Bool.eq_iff_iff.mpr (h.nullable.trans hcollects.nullable.symm)
    have henum := Option.ext fun values =>
      (h.alternativeEnum values).trans (hcollects.alternativeEnum values).symm
    have halternative := Option.ext fun a =>
      (h.alternativeRuleSet a).trans (hcollects.alternativeRuleSet a).symm
    have htable := Option.ext fun t =>
      (h.tableElements t).trans (hcollects.tableElements t).symm
    have hitems := Option.ext fun l => (h.listItems l).trans (hcollects.listItems l).symm
    rw [hpatterns, hoptional, hnullable, henum, halternative, htable, hitems]
    cases r
    rfl

end Gathers

end Draft

/-! ## Reading -/

namespace Ruleset

variable {p : Provider} {description : Value} {place : Location} {r : Ruleset}

/-- A description is read exactly if its place is not too deep, it lists entries that all say something,
about distinct names, and the ruleset collects what they say. -/
theorem ofDescriptionAt_ok_iff :
    ofDescriptionAt p description place = .ok r ↔
      place.depth ≤ maxDepth ∧ description.ListsEntries ∧ ∃ said,
        List.Forall₂ (Entry.Says p (ofDescriptionAt p) place) description.entries said ∧
          (said.map Statement.name).Nodup ∧ r.Collects p said := by
  by_cases hdepth : place.depth ≤ maxDepth
  · obtain ⟨levels, hlevels⟩ : ∃ levels, maxDepth + 1 - place.depth = levels + 1 :=
      ⟨maxDepth - place.depth, by omega⟩
    -- one level below, the same number of levels is left
    have hread (v : Value) (below : Location) (hbelow : below.depth = place.depth + 1) :
        ofDescriptionWithin p levels v below = ofDescriptionAt p v below := by
      rw [ofDescriptionAt, hbelow]
      congr 1
      omega
    have hstates : Entry.Says p (ofDescriptionWithin p levels) place =
        Entry.Says p (ofDescriptionAt p) place := by
      funext entry s
      exact propext ⟨.congr hread, .congr fun v below h => (hread v below h).symm⟩
    simp only [ofDescriptionAt, hlevels, ofDescriptionWithin, bind_ok_iff, located_ok_iff,
      Entry.ofDescription_ok_iff, Draft.addAll_ok_iff]
    simp only [hstates, hdepth, true_and]
    constructor
    · rintro ⟨_, ⟨hlists, rfl⟩, _, ⟨said, hsaid, hdistinct, -, rfl⟩, hfinish⟩
      exact ⟨hlists, said, hsaid, hdistinct, (Draft.gathers_foldl hdistinct).finish_ok_iff.mp hfinish⟩
    · rintro ⟨hlists, said, hsaid, hdistinct, hcollects⟩
      exact ⟨_, ⟨hlists, rfl⟩, _, ⟨said, hsaid, hdistinct, by simp [Draft.blank], rfl⟩,
        (Draft.gathers_foldl hdistinct).finish_ok_iff.mpr hcollects⟩
  · have hlevels : maxDepth + 1 - place.depth = 0 := by omega
    simp [ofDescriptionAt, hlevels, ofDescriptionWithin, hdepth]

/-- Type-checking rules in front of pattern rules are the rules that were declared. -/
theorem declaredRules_perm (said : List Statement) :
    (said.filterMap Statement.typeRule? ++ (said.filterMap Statement.patternRule?).map Prod.snd).Perm
      (said.filterMap Statement.rule?) := by
  induction said with
  | nil => exact .refl _
  | cons s rest ih =>
    cases s with
    | typeRule q => exact ih.cons q
    | patternRule tag q => exact List.perm_middle.trans (ih.cons q)
    | _ => exact ih

/-- The rules of a ruleset are those that were declared, behind at most one guard, which stands there only
if no type-checking rule was declared. -/
theorem Collects.rules_perm {said : List Statement} (h : r.Collects p said) :
    ∃ guards : List Rule, guards.length ≤ 1 ∧
      (said.filterMap Statement.typeRule? ≠ [] → guards = []) ∧
      r.rules.Perm (guards ++ said.filterMap Statement.rule?) := by
  have hperm := declaredRules_perm said
  have htypes := h.typeRules
  rw [rules, h.patternRules]
  generalize r.typeRules = types at htypes
  cases htypes with
  | declared => exact ⟨[], by simp, by simp, hperm⟩
  | containers hnone =>
    refine ⟨[Draft.injected p.containerGuard], by simp, fun hsome => absurd hnone hsome, ?_⟩
    rw [hnone] at hperm
    exact hperm.append_left _
  | @firstPattern hnone _ _ _ guard =>
    refine ⟨[Draft.injected guard], by simp, fun hsome => absurd hnone hsome, ?_⟩
    rw [hnone] at hperm
    exact hperm.append_left _
  | unguarded hnone =>
    rw [hnone] at hperm
    exact ⟨[], by simp, by simp, hperm⟩

/-- A ruleset that is read is a partition of the entries of its description. Every entry says something, no
two of them about the same name; the ruleset has the type-checking rules and the pattern rules in the order
of their entries, a guard if no type-checking rule is declared, and everything else in a part of its own.
Each declared rule stands in it once, and nothing else does but the guard. -/
theorem partition_of_ofDescriptionAt (h : ofDescriptionAt p description place = .ok r) :
    description.ListsEntries ∧ ∃ said,
      List.Forall₂ (Entry.Says p (ofDescriptionAt p) place) description.entries said ∧
      (said.map Statement.name).Nodup ∧ r.Collects p said ∧
      ∃ guards : List Rule, guards.length ≤ 1 ∧
        (said.filterMap Statement.typeRule? ≠ [] → guards = []) ∧
        r.rules.Perm (guards ++ said.filterMap Statement.rule?) := by
  obtain ⟨-, hlists, said, hsaid, hdistinct, hcollects⟩ := ofDescriptionAt_ok_iff.mp h
  exact ⟨hlists, said, hsaid, hdistinct, hcollects, hcollects.rules_perm⟩

/-- The description of a date that may be left out, be null or be the text `never`. The rule for dates goes
by its former name. -/
def dateOrNeverDescription : Value :=
  .array [.object [("dateISO8601", .bool true), ("0", .string "optional")], .string "string",
    .object [("alternativeEnum", .array [.null, .string "never"])]]

/-- A date that may be left out, be null or be the text `never`. -/
def dateOrNever : Ruleset where
  typeRules := [⟨"string", .flag, .typeCheck, []⟩]
  patternRules := [⟨"dateIso8601", .flag, .pattern, ["dateISO8601"]⟩]
  optional := true
  nullable := true
  emptiness := none
  alternativeEnum := some [.string "never"]
  alternativeRuleSet := none
  tableElements := none
  listItems := none

/-- The date comes behind the text that it is, and null is not listed. -/
theorem dateOrNever_partition :
    ofDescriptionAt .standard dateOrNeverDescription .root = .ok dateOrNever ∧ ∃ said,
      List.Forall₂ (Entry.Says .standard (ofDescriptionAt .standard) .root)
        dateOrNeverDescription.entries said ∧
      (said.map Statement.name).Nodup ∧ dateOrNever.Collects .standard said := by
  have hread : ofDescriptionAt .standard dateOrNeverDescription .root = .ok dateOrNever := by
    rfl
  obtain ⟨-, said, hsaid, hdistinct, hcollects, -⟩ := partition_of_ofDescriptionAt hread
  exact ⟨hread, said, hsaid, hdistinct, hcollects⟩

end Ruleset

end Rulebook
