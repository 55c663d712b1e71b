import Rulebook.Description.Reading
import Rulebook.Standard.Types

/-!
# The language of descriptions

Which values describe a ruleset. What is said here is not about reading: it asks for entries that
are well formed each by itself, for distinct names, and for something to evaluate, and it asks the
same of every description inside, so that the order of entries does not matter.
-/

namespace Rulebook

open Json (Value Members)

/-! ## Entries -/

/-- A value that may be an item of a description: a bare name or an object. -/
def Json.Value.IsItem (v : Value) : Prop :=
  (∃ name, v = .string name) ∨ ∃ members, v = .object members

/-- The entries of a bare name or of an object. -/
def Json.Value.itemEntries : Value → List Entry
  | .string name => [.bare name]
  | .object members => Entry.ofMembers members
  | _ => []

/-- A value that lists entries: an item, or a list of items. -/
def Json.Value.ListsEntries : Value → Prop
  | .array items => ∀ item ∈ items, item.IsItem
  | v => v.IsItem

/-- The entries that a value lists. -/
def Json.Value.entries : Value → List Entry
  | .array items => items.flatMap Value.itemEntries
  | v => v.itemEntries

/-- A description has an entry under a core name. -/
def Json.Value.Declares (v : Value) (key : CoreKey) : Prop :=
  ∃ argument, .core key argument ∈ v.entries

/-! ## Rules -/

/-- A name leads to a rule, through at most so many renames. -/
inductive Provider.LeadsTo (p : Provider) : Nat → String → Descriptor → Prop
  | current {renames : Nat} {name : String} {d : Descriptor}
      (described : p.descriptor name = some d) : LeadsTo p renames name d
  | former {renames : Nat} {name next : String} {d : Descriptor}
      (undescribed : p.descriptor name = none) (renamed : p.renamed name = some next)
      (leads : LeadsTo p renames next d) : LeadsTo p (renames + 1) name d

/-- An argument suits a rule: the value true if the rule needs no arguments, a list if it has as
many items as the rule takes, and any other value if the rule takes one argument. -/
def Descriptor.Suits (d : Descriptor) : Value → Prop
  | .bool true => d.required = 0
  | .array values => d.required ≤ values.length ∧ values.length ≤ d.allowed
  | _ => d.allowed = 1

/-- The values that an argument stands for. -/
def argumentValues : Value → List Value
  | .bool true => []
  | .array values => values
  | v => [v]

/-- A rule can be run with the argument under its name. -/
def Provider.CanRun (p : Provider) (d : Descriptor) (v : Value) : Prop :=
  d.Suits v ∧ p.prepare d.name (argumentValues v) = .ok ()

/-! ## Lists of values -/

/-- A value lists values: at least one, each of them a scalar or, where it is allowed, null. The
list may be wrapped in another one. -/
def Json.Value.ListsValues (allowsNull : Bool) (v : Value) : Prop :=
  ∃ values, (v = .array values ∨ v = .array [.array values]) ∧ values ≠ [] ∧
    ∀ w ∈ values, Standard.isScalar w = true ∨ allowsNull = true ∧ w = .null

/-! ## Tables -/

/-- A setting is in force: a flag that is on, or a list that is not empty. -/
def Json.Value.InForce : Value → Prop
  | .bool b => b = true
  | .array items => items ≠ []
  | _ => False

/-- The members of an object put a setting in force. -/
def Activates (members : Members) (name : String) : Prop :=
  ∃ v, Association.lookup name members = some v ∧ v.InForce

/-- A setting is left out, or is a list of undeclared keys. -/
def ListsUndeclared (declared : List String) (setting : Option Value) : Prop :=
  ∀ v, setting = some v →
    ∃ keys : List String, v = .array (keys.map .string) ∧ ∀ key ∈ keys, key ∉ declared

/-- The members beside declared elements set a policy for other keys. -/
structure SetsPolicy (declared : List String) (members : Members) : Prop where
  exclusive : ∀ v, Association.lookup "exclusive" members = some v → ∃ b, v = .bool b
  whitelist : ListsUndeclared declared (Association.lookup "whitelist" members)
  blacklist : ListsUndeclared declared (Association.lookup "blacklist" members)
  /-- No two settings are in force. -/
  single : ["exclusive", "whitelist", "blacklist"].Pairwise fun a b =>
    ¬(Activates members a ∧ Activates members b)

/-- A value declares elements of a table: it is an object of them, or it has an object of them among
known members, beside a policy. -/
inductive Json.Value.DeclaresElements : Value → Members → Prop
  | plain {elements : Members} (nonempty : elements ≠ [])
      (unwrapped : ∀ key ∈ tableKeys, key ∉ Association.keys elements) :
      DeclaresElements (.object elements) elements
  | wrapped {members elements : Members} (nonempty : elements ≠ [])
      (known : ∀ key ∈ Association.keys members, key ∈ tableKeys)
      (declared : Association.lookup "rulesByElements" members = some (.object elements))
      (policy : SetsPolicy (Association.keys elements) members) :
      DeclaresElements (.object members) elements

/-! ## Lists of items -/

/-- A bound on the number of items, zero if it is left out. -/
def SetsBound (members : Members) (name : String) (n : Nat) : Prop :=
  Association.lookup name members = none ∧ n = 0 ∨
    Association.lookup name members = some (.number (.int n)) ∧ (n : Int) < Json.Number.ceiling

/-- The members beside the rules for items set bounds with room between them. A greatest number of
zero is no bound. -/
def SetsBounds (members : Members) : Prop :=
  ∃ least most, SetsBound members "minOccur" least ∧ SetsBound members "maxOccur" most ∧
    (most = 0 ∨ least ≤ most)

/-- A value has a description of items: it is one, or it has one among known members, beside
bounds. -/
inductive Json.Value.DescribesItems : Value → Value → Prop
  | plain {v : Value}
      (unwrapped : ∀ members, v = .object members →
        ∀ key ∈ listKeys, key ∉ Association.keys members) : DescribesItems v v
  | wrapped {members : Members} {w : Value}
      (known : ∀ key ∈ Association.keys members, key ∈ listKeys)
      (items : Association.lookup "itemRules" members = some w)
      (bounds : SetsBounds members) : DescribesItems (.object members) w

/-! ## Rulesets -/

/-- An argument may stand under a core name, whatever holds of the descriptions in it. -/
def CoreKey.Admits : CoreKey → Value → Prop
  | .optional, v => ∃ b, v = .bool b
  | .nullable, v => ∃ b, v = .bool b
  | .empty, v => ∃ b, v = .bool b
  | .nonEmpty, v => ∃ b, v = .bool b
  | .enum, v => v.ListsValues false
  | .alternativeEnum, v => v.ListsValues true
  | .alternativeRuleSet, v =>
    ¬v.Declares .alternativeRuleSet ∧ ¬v.Declares .tableElements ∧ ¬v.Declares .listItems
  | .tableElements, v => ∃ elements, v.DeclaresElements elements
  | .listItems, v => ∃ items, v.DescribesItems items

/-- An entry is well formed by itself. -/
def Entry.WellFormed (p : Provider) : Entry → Prop
  | .core key v => key.Admits v
  | .rule name v => ∃ d, p.LeadsTo maxRenames name d ∧ p.CanRun d v

/-- An entry takes a name: a core name, or the current name of a rule. -/
inductive Entry.Takes (p : Provider) : Entry → String → Prop
  | core (key : CoreKey) (v : Value) : Takes p (.core key v) key.name
  | rule {name : String} {d : Descriptor} (v : Value) (leads : p.LeadsTo maxRenames name d) :
      Takes p (.rule name v) d.name

/-- Two entries take different names. -/
def Entry.Apart (p : Provider) (a b : Entry) : Prop :=
  ∀ name, a.Takes p name → ¬b.Takes p name

/-- An entry gives something to evaluate. -/
def Entry.Evaluates : Entry → Prop
  | .rule _ _ => True
  | .core .enum _ => True
  | .core .tableElements _ => True
  | .core .listItems _ => True
  | .core .empty v => v = .bool true
  | .core .nonEmpty v => v = .bool true
  | _ => False

/-- A value is a ruleset, as far as it can be told without the descriptions inside. -/
structure Json.Value.IsNode (p : Provider) (v : Value) : Prop where
  lists : v.ListsEntries
  wellFormed : ∀ entry ∈ v.entries, entry.WellFormed p
  /-- No name is taken twice. -/
  distinct : v.entries.Pairwise (Entry.Apart p)
  consistent :
    ¬(.core .empty (.bool true) ∈ v.entries ∧ .core .nonEmpty (.bool true) ∈ v.entries)
  evaluates : ∃ entry ∈ v.entries, entry.Evaluates

/-- An entry has a description directly inside. -/
def Entry.Holds : Entry → Value → Prop
  | .core .alternativeRuleSet v, w => v = w
  | .core .tableElements v, w => ∃ elements, v.DeclaresElements elements ∧ ∃ e ∈ elements, e.2 = w
  | .core .listItems v, w => v.DescribesItems w
  | _, _ => False

/-- A value describes a ruleset at a depth: it is one by itself, and so is every description inside,
one level deeper, and there are only so many levels. -/
inductive Json.Value.DescribesRuleset (p : Provider) : Nat → Value → Prop
  | node {depth : Nat} {v : Value} (depth_le : depth ≤ maxDepth) (here : v.IsNode p)
      (inside : ∀ entry ∈ v.entries, ∀ w, entry.Holds w → DescribesRuleset p (depth + 1) w) :
      DescribesRuleset p depth v

/-! ## Order -/

/-- Entries are apart from each other both ways. -/
theorem Entry.Apart.symm {p : Provider} {a b : Entry} (h : a.Apart p b) : b.Apart p a :=
  fun name hb ha => h name ha hb

namespace Json.Value

variable {p : Provider} {v w : Value}

/-- A value that lists the entries of a ruleset in another order is one by itself, too. -/
theorem IsNode.of_perm (h : v.IsNode p) (hlists : w.ListsEntries)
    (hperm : v.entries.Perm w.entries) : w.IsNode p where
  lists := hlists
  wellFormed entry hentry := h.wellFormed entry (hperm.mem_iff.mpr hentry)
  distinct := (hperm.pairwise_iff Entry.Apart.symm).mp h.distinct
  consistent := by
    rw [← hperm.mem_iff, ← hperm.mem_iff]
    exact h.consistent
  evaluates := by
    obtain ⟨entry, hentry, hevaluates⟩ := h.evaluates
    exact ⟨entry, hperm.mem_iff.mp hentry, hevaluates⟩

/-- A value that lists the entries of a description in another order describes a ruleset, too. -/
theorem DescribesRuleset.of_perm {depth : Nat} (h : v.DescribesRuleset p depth)
    (hlists : w.ListsEntries) (hperm : v.entries.Perm w.entries) : w.DescribesRuleset p depth := by
  obtain ⟨hdepth, hnode, hinside⟩ := h
  exact .node hdepth (hnode.of_perm hlists hperm) fun entry hentry =>
    hinside entry (hperm.mem_iff.mpr hentry)

end Json.Value

end Rulebook
