import Rulebook.Proofs.Description.Nesting
import Rulebook.Proofs.Text.Printable

/-!
# Names of rules in rulesets that are read

A description calls rules by names, but no ruleset keeps a name of which the provider does not know:
a rule bears the name under which it is described, and a former name is kept only if it led to one. So a
description brings no text of its own into a ruleset by way of names.
-/

namespace Rulebook

open Json (Value)

/-- The names that rules may have under a provider: those of its tables, and the one of enumerations. -/
inductive Provider.Knows (p : Provider) : String → Prop
  | current {name : String} {d : Descriptor} (described : p.descriptor name = some d) :
      p.Knows d.name
  | former {name next : String} (renamed : p.renamed name = some next) : p.Knows name
  | typeGuard {tag : TypeTag} {name : String} (guards : p.typeGuard tag = some name) : p.Knows name
  | containerGuard : p.Knows p.containerGuard
  | enumeration : p.Knows CoreKey.enum.name

/-- A rule has no other names than those that a provider knows. -/
structure Rule.NamedBy (p : Provider) (q : Rule) : Prop where
  name : p.Knows q.name
  formerNames : ∀ name ∈ q.formerNames, p.Knows name

/-- The rules of a ruleset have no other names than those that a provider knows. -/
def Ruleset.NamedBy (p : Provider) (r : Ruleset) : Prop := ∀ q ∈ r.rules, q.NamedBy p

variable {p : Provider}

/-- All names are known that lead from the name of a rule to its description. -/
theorem Provider.knows_of_resolve {name : String} {found : Resolved}
    (h : p.resolve name = .ok found) :
    p.Knows found.descriptor.name ∧ ∀ former ∈ found.formerNames, p.Knows former := by
  have hwithin : ∀ lookups name former, (∀ n ∈ former, p.Knows n) →
      p.resolveWithin lookups name former = .ok found →
      p.Knows found.descriptor.name ∧ ∀ n ∈ found.formerNames, p.Knows n := by
    intro lookups
    induction lookups with
    | zero =>
      intro name former _ h
      cases h
    | succ lookups ih =>
      intro name former hformer h
      unfold resolveWithin at h
      split at h
      · next d hd =>
        obtain rfl := Except.ok.inj h
        exact ⟨.current hd, hformer⟩
      · split at h
        · next next hnext =>
          exact ih next (name :: former) (List.forall_mem_cons.mpr ⟨.former hnext, hformer⟩) h
        · cases h
  exact hwithin _ name [] (by simp) h

namespace Draft

variable {read : RulesetReader} {place : Location} {draft next : Draft}

/-- A type-checking rule behind others. -/
theorem namedBy_typeRule (hdraft : draft.ruleset.NamedBy p) {q : Rule} (hq : q.NamedBy p) :
    { draft with typeRules := draft.typeRules ++ [q] }.ruleset.NamedBy p := by
  intro q' hq'
  simp only [ruleset, Ruleset.rules, List.mem_append, List.mem_singleton] at hq'
  rcases hq' with (htype | rfl) | hpattern
  · exact hdraft q' (List.mem_append_left _ htype)
  · exact hq
  · exact hdraft q' (List.mem_append_right _ hpattern)

/-- A pattern rule behind others. -/
theorem namedBy_addPattern (hdraft : draft.ruleset.NamedBy p) (tag : TypeTag) {q : Rule}
    (hq : q.NamedBy p) : (draft.addPattern tag q).ruleset.NamedBy p := by
  intro q' hq'
  simp only [addPattern, ruleset, Ruleset.rules, List.mem_append, List.mem_singleton] at hq'
  rcases hq' with htype | hpattern | rfl
  · exact hdraft q' (List.mem_append_left _ htype)
  · exact hdraft q' (List.mem_append_right _ hpattern)
  · exact hq

variable (hdraft : draft.ruleset.NamedBy p)

include hdraft

/-- A rule that is added has names that the provider knows. -/
theorem namedBy_of_addRule {name : String} {v : Value} (hadd : draft.addRule p name v = .ok next) :
    next.ruleset.NamedBy p := by
  unfold addRule at hadd
  split at hadd
  · cases hadd
  · next found hfound =>
    obtain ⟨hname, hformer⟩ := Provider.knows_of_resolve hfound
    simp only [bind_ok_iff, take_ok_iff] at hadd
    obtain ⟨_, ⟨_, rfl⟩, _, _, arguments, _, hadd⟩ := hadd
    have hnamed : (found.rule arguments).NamedBy p := ⟨hname, hformer⟩
    have htaken : { draft with names := found.descriptor.name :: draft.names }.ruleset.NamedBy p :=
      hdraft
    split at hadd
    · obtain rfl := Except.ok.inj hadd
      exact namedBy_typeRule htaken hnamed
    · obtain rfl := Except.ok.inj hadd
      exact namedBy_addPattern htaken found.descriptor.semanticType hnamed

/-- The only rule that a core entry adds is an enumeration. -/
theorem namedBy_of_addCore {key : CoreKey} {v : Value}
    (hadd : draft.addCore read place key v = .ok next) : next.ruleset.NamedBy p := by
  cases key with
  | optional | nullable | empty | nonEmpty | tableElements | listItems =>
    simp only [addCore, bind_ok_iff] at hadd
    obtain ⟨_, _, hadd⟩ := hadd
    obtain rfl := Except.ok.inj hadd
    exact hdraft
  | enum =>
    simp only [addCore, located_ok_iff, addEnum, bind_ok_iff] at hadd
    obtain ⟨values, _, hadd⟩ := hadd
    obtain rfl := Except.ok.inj hadd
    exact namedBy_addPattern hdraft _ ⟨.enumeration, by simp⟩
  | alternativeEnum =>
    simp only [addCore, located_ok_iff, addAlternativeEnum, bind_ok_iff] at hadd
    obtain ⟨_, _, hadd⟩ := hadd
    obtain rfl := Except.ok.inj hadd
    exact hdraft
  | alternativeRuleSet =>
    simp only [addCore, bind_ok_iff, located_ok_iff, addAlternative] at hadd
    obtain ⟨_, _, hadd⟩ := hadd
    split at hadd
    · cases hadd
    · obtain rfl := Except.ok.inj hadd
      exact hdraft

/-- An entry adds no rule with another name. -/
theorem namedBy_of_add {entry : Entry} (hadd : draft.add p read place entry = .ok next) :
    next.ruleset.NamedBy p := by
  cases entry with
  | core key v =>
    simp only [add, bind_ok_iff, located_ok_iff, take_ok_iff] at hadd
    obtain ⟨_, ⟨_, rfl⟩, hadd⟩ := hadd
    have htaken : { draft with names := key.name :: draft.names }.ruleset.NamedBy p := hdraft
    exact namedBy_of_addCore htaken hadd
  | rule name v => exact namedBy_of_addRule hdraft (located_ok_iff.mp hadd)

/-- The guard of a finished draft has a name that the provider knows. -/
theorem namedBy_of_finish {r : Ruleset} (hfinish : draft.finish p = .ok r) : r.NamedBy p := by
  simp only [finish, bind_ok_iff] at hfinish
  obtain ⟨emptiness, _, types, htypes, hfinish⟩ := hfinish
  obtain rfl := Except.ok.inj hfinish
  have htypes : ∀ q ∈ types, q.NamedBy p := by
    unfold guarded at htypes
    split at htypes
    · obtain rfl := Except.ok.inj htypes
      exact fun q hq => hdraft q (List.mem_append_left _ hq)
    · split at htypes
      · obtain rfl := Except.ok.inj htypes
        simpa using ⟨.containerGuard, by simp [injected]⟩
      · split at htypes
        · split at htypes
          · next guard hguard =>
            obtain rfl := Except.ok.inj htypes
            simpa using ⟨.typeGuard hguard, by simp [injected]⟩
          · cases htypes
        · split at htypes
          · obtain rfl := Except.ok.inj htypes
            simp
          · cases htypes
  exact List.forall_mem_append.mpr ⟨htypes, fun q hq => hdraft q (List.mem_append_right _ hq)⟩

end Draft

/-- All rules in a ruleset that is read have names that the provider knows. -/
theorem Ruleset.namedBy_of_ofDescriptionWithin {levels : Nat} {description : Value}
    {place : Location} {r : Ruleset} (h : ofDescriptionWithin p levels description place = .ok r) :
    r.Everywhere (NamedBy p) := by
  have hblank : Draft.blank.ruleset.NamedBy p := by
    simp [NamedBy, Draft.blank, Draft.ruleset, rules]
  exact everywhere_of_ofDescriptionWithin (I := fun draft => draft.ruleset.NamedBy p) hblank
    (fun hdraft hadd => Draft.namedBy_of_add hdraft hadd)
    (fun hdraft hfinish => Draft.namedBy_of_finish hdraft hfinish) h

/-- The names in the tables of the standard rules are shown by a terminal as they are. -/
theorem Provider.printable_of_standard_knows [PatternEngine] {name : String}
    (h : standard.Knows name) :
    Text.Printable name := by
  have hcurrent (r : StandardRule) : Text.Printable r.name := by
    cases r <;> decide
  cases h with
  | current described =>
    obtain ⟨r, _, rfl⟩ := Option.map_eq_some_iff.mp described
    exact hcurrent r
  | former renamed =>
    have hformer : ∀ rename ∈ StandardRule.renames, Text.Printable rename.1 := by decide
    exact hformer _ (Association.mem_of_lookup renamed)
  | typeGuard guards =>
    obtain ⟨r, _, rfl⟩ := Option.map_eq_some_iff.mp guards
    exact hcurrent r
  | containerGuard => exact hcurrent .loopable
  | enumeration => decide

end Rulebook
