import Mathlib.Data.List.Perm.Basic
import Rulebook.Proofs.Description.Partition

/-!
# The order of entries

Entries may be put in another order, and a description in another shape, as long as type-checking rules keep
their order and pattern rules keep theirs: the same ruleset is read, or none is. Flags, fallbacks and rules
for children may stand anywhere.
-/

namespace Rulebook

open Json (Value)

/-- Whether an entry declares a type-checking rule. -/
def Entry.declaresTypeRule (p : Provider) : Entry → Bool
  | .rule name _ =>
    match p.resolve name with
    | .ok found => found.descriptor.isTypeChecking
    | .error _ => false
  | .core _ _ => false

/-- Whether an entry declares a pattern rule or an enumeration. -/
def Entry.declaresPatternRule (p : Provider) : Entry → Bool
  | .rule name _ =>
    match p.resolve name with
    | .ok found => !found.descriptor.isTypeChecking
    | .error _ => false
  | .core key _ => key == .enum

/-- Entries in another order, in which rules of one kind keep theirs. -/
structure Entry.Rearranged (p : Provider) (entries entries' : List Entry) : Prop where
  perm : entries.Perm entries'
  typeRules : entries.filter (Entry.declaresTypeRule p) = entries'.filter (Entry.declaresTypeRule p)
  patternRules :
    entries.filter (Entry.declaresPatternRule p) = entries'.filter (Entry.declaresPatternRule p)

variable {p : Provider}

/-- Entries may be put back in order. -/
theorem Entry.Rearranged.symm {entries entries' : List Entry} (h : Rearranged p entries entries') :
    Rearranged p entries' entries :=
  ⟨h.perm.symm, h.typeRules.symm, h.patternRules.symm⟩

namespace Entry.Says

variable {read : RulesetReader} {place : Location} {entry : Entry} {s : Statement}

/-- An entry declares a type-checking rule if it says so. -/
theorem declaresTypeRule_eq (h : entry.Says p read place s) :
    entry.declaresTypeRule p = s.typeRule?.isSome := by
  cases h with
  | typeRule resolved _ _ checking => simp [declaresTypeRule, Statement.typeRule?, resolved, checking]
  | patternRule resolved _ _ checking =>
    simp [declaresTypeRule, Statement.typeRule?, resolved, checking]
  | _ => rfl

/-- An entry declares a pattern rule or an enumeration if it says so. -/
theorem declaresPatternRule_eq (h : entry.Says p read place s) :
    entry.declaresPatternRule p = s.patternRule?.isSome := by
  cases h with
  | typeRule resolved _ _ checking =>
    simp [declaresPatternRule, Statement.patternRule?, resolved, checking]
  | patternRule resolved _ _ checking =>
    simp [declaresPatternRule, Statement.patternRule?, resolved, checking]
  | _ => rfl

/-- Entries of one kind in one order say the same about that kind. -/
theorem filterMap_eq {α : Type} {kind : Entry → Bool} {part? : Statement → Option α}
    (hkind : ∀ {entry s}, Says p read place entry s → kind entry = (part? s).isSome)
    {entries entries' : List Entry} {said said' : List Statement}
    (hfilter : entries.filter kind = entries'.filter kind)
    (hsaid : List.Forall₂ (Says p read place) entries said)
    (hsaid' : List.Forall₂ (Says p read place) entries' said') :
    said.filterMap part? = said'.filterMap part? := by
  have hrelates : Relator.LiftFun (Says p read place) (· ↔ ·) (fun entry => kind entry = true)
      (fun s => (part? s).isSome = true) := by
    intro entry s hstates
    exact Bool.eq_iff_iff.mp (hkind hstates)
  have hkept := List.rel_filter hrelates hsaid
  have hkept' := List.rel_filter hrelates hsaid'
  rw [hfilter] at hkept
  have hunique : Relator.RightUnique (Says p read place) := fun _ _ _ => unique
  have hstatements : said.filter (fun s => (part? s).isSome) =
      said'.filter (fun s => (part? s).isSome) := hunique.forall₂ hkept hkept'
  have hdropped (said : List Statement) :
      (said.filter fun s => (part? s).isSome).filterMap part? = said.filterMap part? := by
    rw [List.filterMap_filter]
    congr 1
    funext s
    cases part? s <;> rfl
  rw [← hdropped, hstatements, hdropped]

end Entry.Says

/-! ## Collecting -/

section Collecting

variable {said said' : List Statement}
  (htypeRules : said.filterMap Statement.typeRule? = said'.filterMap Statement.typeRule?)
  (hpatternRules : said.filterMap Statement.patternRule? = said'.filterMap Statement.patternRule?)
  (hmem : ∀ s, s ∈ said ↔ s ∈ said')

include htypeRules hpatternRules hmem

/-- The type-checking rules depend on what is said, and on the order within each kind of rule. -/
theorem TypeRules.congr {types : List Rule} (h : TypeRules p said types) : TypeRules p said' types := by
  cases h with
  | declared hdeclared =>
    rw [htypeRules] at hdeclared ⊢
    exact .declared hdeclared
  | containers hnone hchildren =>
    simp only [htypeRules, hmem] at hnone hchildren
    exact .containers hnone hchildren
  | firstPattern hnone hchildless hfirst hguard =>
    simp only [htypeRules, hpatternRules, hmem] at hnone hchildless hfirst
    exact .firstPattern hnone hchildless hfirst hguard
  | unguarded hnone hchildless hpatternless hflagged =>
    simp only [htypeRules, hpatternRules, hmem] at hnone hchildless hpatternless hflagged
    exact .unguarded hnone hchildless hpatternless hflagged

/-- So does the ruleset. -/
theorem Ruleset.Collects.congr {r : Ruleset} (h : r.Collects p said) : r.Collects p said' := by
  have htypes := h.typeRules.congr htypeRules hpatternRules hmem
  have hpatterns := h.patternRules
  rw [hpatternRules] at hpatterns
  obtain ⟨-, -, hoptional, hnullable, hempty, hnonEmpty, henum, halternative, htable, hitems⟩ := h
  simp only [hmem] at hoptional hnullable hempty hnonEmpty henum halternative htable hitems
  exact ⟨htypes, hpatterns, hoptional, hnullable, hempty, hnonEmpty, henum, halternative, htable,
    hitems⟩

end Collecting

/-! ## Reading -/

namespace Ruleset

variable {description description' : Value} {place : Location} {r : Ruleset}

/-- Rearranged entries are read to the same ruleset. -/
theorem ofDescriptionAt_rearranged (hlists : description'.ListsEntries)
    (hentries : Entry.Rearranged p description.entries description'.entries)
    (h : ofDescriptionAt p description place = .ok r) :
    ofDescriptionAt p description' place = .ok r := by
  obtain ⟨hdepth, -, said, hsaid, hdistinct, hcollects⟩ := ofDescriptionAt_ok_iff.mp h
  obtain ⟨said', hsaid', hperm⟩ := List.perm_comp_forall₂ hentries.perm.symm hsaid
  have htypeRules := Entry.Says.filterMap_eq Entry.Says.declaresTypeRule_eq hentries.typeRules
    hsaid hsaid'
  have hpatternRules := Entry.Says.filterMap_eq Entry.Says.declaresPatternRule_eq
    hentries.patternRules hsaid hsaid'
  have hdistinct' := (hperm.map Statement.name).nodup_iff.mpr hdistinct
  have hcollects' := hcollects.congr htypeRules hpatternRules fun s => hperm.mem_iff.symm
  exact ofDescriptionAt_ok_iff.mpr ⟨hdepth, hlists, said', hsaid', hdistinct', hcollects'⟩

/-- The order of entries of different kinds does not matter, nor does the shape of the description. -/
theorem ofDescriptionAt_iff_of_rearranged (hlists : description.ListsEntries)
    (hlists' : description'.ListsEntries)
    (hentries : Entry.Rearranged p description.entries description'.entries) (place : Location)
    (r : Ruleset) :
    ofDescriptionAt p description place = .ok r ↔ ofDescriptionAt p description' place = .ok r :=
  ⟨ofDescriptionAt_rearranged hlists' hentries, ofDescriptionAt_rearranged hlists hentries.symm⟩

/-- The entries of `dateOrNeverDescription`, backwards in one object. -/
def neverOrDateDescription : Value :=
  .object [("alternativeEnum", .array [.null, .string "never"]), ("string", .bool true),
    ("optional", .bool true), ("dateISO8601", .bool true)]

/-- Backwards, the entries give the same ruleset. -/
theorem neverOrDate_read :
    Entry.Rearranged .standard dateOrNeverDescription.entries neverOrDateDescription.entries ∧
      ofDescriptionAt .standard neverOrDateDescription .root = .ok dateOrNever := by
  have hlists : dateOrNeverDescription.ListsEntries := by
    simp [dateOrNeverDescription, Value.ListsEntries, Value.IsItem]
  have hlists' : neverOrDateDescription.ListsEntries := .inr ⟨_, rfl⟩
  have hentries : Entry.Rearranged .standard dateOrNeverDescription.entries
      neverOrDateDescription.entries :=
    ⟨(List.reverse_perm _).symm, rfl, rfl⟩
  have hread : ofDescriptionAt .standard dateOrNeverDescription .root = .ok dateOrNever := by
    rfl
  exact ⟨hentries,
    (ofDescriptionAt_iff_of_rearranged hlists hlists' hentries .root dateOrNever).mp hread⟩

end Ruleset

end Rulebook
