import Rulebook.Description.Reading
import Rulebook.Proofs.Description.Coherence
import Rulebook.Proofs.Json.DistinctKeys
import Rulebook.Proofs.Ruleset.Parts

/-!
# Regular rulesets

The form of the rulesets that are read from descriptions. What is asked of a ruleset by itself is
kept apart from the guard in front of its rules, since rules for children may be put into a ruleset
later on without one.
-/

namespace Rulebook

open Json (Value)

/-! ## Rules -/

/-- Arguments fit a rule, and are written in the one way that the reading of them chooses. -/
def Arguments.Fits (d : Descriptor) : Arguments → Prop
  | .flag => d.required = 0
  | .list values =>
    d.required ≤ values.length ∧ values.length ≤ d.allowed ∧ ¬(values = [] ∧ d.allowed = 0)

/-- A rule is one that a provider describes, with arguments that it can use. -/
structure Rule.FitsDescriptor (p : Provider) (r : Rule) (d : Descriptor) : Prop where
  described : p.descriptor r.name = some d
  arguments : r.arguments.Fits d
  prepared : p.prepare r.name r.arguments.values = .ok ()

/-- A type-checking rule of a provider. -/
def Provider.ChecksTypes (p : Provider) (r : Rule) : Prop :=
  r.kind = .typeCheck ∧ ∃ d, d.isTypeChecking = true ∧ r.FitsDescriptor p d

/-- A pattern rule of a provider. -/
def Provider.ChecksPatterns (p : Provider) (r : Rule) : Prop :=
  r.kind = .pattern ∧ ∃ d, d.isTypeChecking = false ∧ r.FitsDescriptor p d

/-- Values that an enumeration may list: at least one, and only scalars. -/
structure ScalarList (values : List Value) : Prop where
  nonempty : values ≠ []
  scalar : ∀ v ∈ values, enumValueFault? false v = none

/-- A rule that lists values. -/
def Rule.Enumerates (r : Rule) : Prop :=
  r.kind = .enumeration ∧ r.name = CoreKey.enum.name ∧
    ∃ values, r.arguments = .list values ∧ ScalarList values

/-! ## Children -/

/-- Keys that are not declared, at least one and each once. -/
structure UndeclaredKeys (declared keys : List String) : Prop where
  nonempty : keys ≠ []
  nodup : keys.Nodup
  undeclared : ∀ key ∈ keys, key ∉ declared

/-- A policy lists undeclared keys only. -/
def Membership.Fits (declared : List String) : Membership → Prop
  | .open => True
  | .exclusive => True
  | .whitelist keys => UndeclaredKeys declared keys
  | .blacklist keys => UndeclaredKeys declared keys

/-- A table declares at least one element, each once, and its policy is about other keys. -/
structure TableElements.Sound {α : Type} (t : TableElements α) : Prop where
  nonempty : t.elements ≠ []
  keys : t.keys.Nodup
  membership : t.membership.Fits t.keys

/-- A bound on the number of items can be written as a number. -/
def IsCount (n : Nat) : Prop := (n : Int) < Json.Number.ceiling

/-- Zero can be written as a number. -/
theorem isCount_zero : IsCount 0 := by
  simp [IsCount, Json.Number.ceiling]

/-- A number that a count is written as is read as that count. -/
theorem count?_of_isCount {n : Nat} (h : IsCount n) :
    (Value.number (.int n)).count? = some n := by
  unfold IsCount at h
  simp [Value.count?, Json.Number.unsigned64?, h]

/-- The bounds of a list leave room between them. -/
structure ListItems.Sound {α : Type} (l : ListItems α) : Prop where
  least : IsCount l.minOccur
  most : ∀ most, l.maxOccur = some most → IsCount most ∧ most ≠ 0 ∧ l.minOccur ≤ most

/-! ## Rulesets -/

namespace Ruleset

/-- What holds of a ruleset by itself, whatever guards it and whatever holds of its parts. -/
structure Sound (p : Provider) (r : Ruleset) : Prop where
  typeRules : ∀ q ∈ r.typeRules, p.ChecksTypes q
  patternRules : ∀ q ∈ r.patternRules, p.ChecksPatterns q ∨ q.Enumerates
  /-- No two rules share a name. -/
  names : (r.rules.map Rule.name).Nodup
  arguments : ∀ q ∈ r.rules, ∀ v ∈ q.arguments.values, v.KeysDistinct
  alternativeEnum : ∀ values, r.alternativeEnum = some values → ScalarList values
  /-- Fallbacks are not nested and say nothing about children. -/
  alternative : ∀ a, r.alternativeRuleSet = some a → Draft.nestedPart? a = none
  table : ∀ t, r.tableElements = some t → t.Sound
  items : ∀ l, r.listItems = some l → l.Sound

/-- A ruleset has a type-checking rule, or speaks about emptiness only. -/
def Guarded (r : Ruleset) : Prop :=
  r.typeRules = [] → r.patternRules = [] ∧ r.hasChildren = false ∧ r.emptiness.isSome = true

/-- The ruleset with the guard of containers in front of its rules for children, if it has no
type-checking rule. -/
def withContainerGuard (p : Provider) (r : Ruleset) : Ruleset :=
  if r.typeRules.isEmpty && r.hasChildren then
    { r with typeRules := [Draft.injected p.containerGuard] }
  else r

/-- Rules for children stand behind a type-checking rule. -/
def GuardsChildren (r : Ruleset) : Prop := r.hasChildren = true → r.typeRules ≠ []

/-- A ruleset is sound and guarded with all rulesets in it, which are nested less than so many
levels deep. -/
inductive Regular (p : Provider) : Nat → Ruleset → Prop
  | node {levels : Nat} {r : Ruleset} (sound : r.Sound p) (guarded : r.Guarded)
      (parts : ∀ q ∈ r.parts, Regular p levels q) : Regular p (levels + 1) r

variable {p : Provider} {r : Ruleset}

/-- A guarded ruleset has a guard in front of rules for children. -/
theorem Guarded.guardsChildren (h : r.Guarded) : r.GuardsChildren := by
  intro hchildren htypes
  rw [(h htypes).2.1] at hchildren
  cases hchildren

/-- A ruleset with a guard in front of its rules for children needs no other one. -/
theorem GuardsChildren.withContainerGuard_eq (h : r.GuardsChildren) :
    r.withContainerGuard p = r := by
  refine if_neg ?_
  rw [Bool.and_eq_true, List.isEmpty_iff]
  exact fun hnone => h hnone.2 hnone.1

/-- A regular ruleset is sound in all its rulesets. -/
theorem Regular.everywhere_sound {levels : Nat} (h : r.Regular p levels) :
    r.Everywhere (Sound p) := by
  induction h with
  | node sound _ _ ih => exact .node sound ih

/-- No pattern rule has the name of a type-checking rule. -/
theorem Sound.ne_name_of_patternRule (h : r.Sound p) (hp : p.Coherent) {name : String}
    (hname : p.IsGuard name) {q : Rule} (hq : q ∈ r.patternRules) : q.name ≠ name := by
  rintro rfl
  obtain ⟨d, hdescribed, hchecking, _⟩ := hname.described
  rcases h.patternRules q hq with ⟨_, d', hd', hfits⟩ | ⟨_, henum, _⟩
  · have heq : d = d' := Option.some.inj (hdescribed.symm.trans hfits.described)
    simp [heq, hd'] at hchecking
  · rw [henum, hp.core_free .enum] at hdescribed
    cases hdescribed

/-- A ruleset without type-checking rules stays sound when it is given a guard. -/
theorem Sound.withGuard (h : r.Sound p) (hp : p.Coherent) {name : String} (hname : p.IsGuard name)
    (htypes : r.typeRules = []) :
    { r with typeRules := [Draft.injected name] }.Sound p := by
  obtain ⟨d, hdescribed, hchecking, hallowed⟩ := hname.described
  have hrules : r.rules = r.patternRules := by simp [rules, htypes]
  have harity := hp.arity hdescribed
  have hguard : p.ChecksTypes (Draft.injected name) :=
    ⟨rfl, d, hchecking, hdescribed, by simp [Draft.injected, Arguments.Fits]; omega,
      hname.prepared⟩
  refine { h with typeRules := by simpa using hguard, names := ?_, arguments := ?_ }
  · have hfresh : name ∉ r.patternRules.map Rule.name := by
      intro hmem
      obtain ⟨q, hq, heq⟩ := List.mem_map.mp hmem
      exact h.ne_name_of_patternRule hp hname hq heq
    have hnames := h.names
    rw [hrules] at hnames
    exact List.nodup_cons.mpr ⟨hfresh, hnames⟩
  · have harguments := h.arguments
    rw [hrules] at harguments
    refine List.forall_mem_cons.mpr ⟨?_, harguments⟩
    simp [Draft.injected, Arguments.values]

end Ruleset

end Rulebook
