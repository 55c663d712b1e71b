import Rulebook.Description.Arguments
import Rulebook.Description.Children
import Rulebook.Description.Enumeration

/-!
# Drafts of rulesets

What the entries of a description have said so far, entry by entry, and how the finished draft becomes a
ruleset: type-checking rules come in front of pattern rules, and where none was declared, a guard that
fits the first pattern rule is put there.
-/

namespace Rulebook

open Json (Value)

/-- What the entries so far have said. -/
structure Draft where
  /-- The core names and current names of rules that are taken. -/
  names : List String
  typeRules : List Rule
  patternRules : List Rule
  /-- The tag and the name of the first pattern rule. -/
  firstPattern : Option (TypeTag × String)
  optional : Bool
  nullable : Bool
  empty : Bool
  nonEmpty : Bool
  alternativeEnum : Option (List Value)
  alternativeRuleSet : Option Ruleset
  tableElements : Option (TableElements Ruleset)
  listItems : Option (ListItems Ruleset)
  deriving Repr

namespace Draft

/-- Nothing has been said. -/
def blank : Draft :=
  ⟨[], [], [], none, false, false, false, false, none, none, none, none⟩

/-- Takes a name, which must be free. -/
def take (draft : Draft) (name : String) (formerNames : List String) :
    Except DefinitionFault Draft :=
  if draft.names.contains name then .error (.duplicateRule name formerNames)
  else .ok { draft with names := name :: draft.names }

/-- Adds a pattern rule, and remembers the first one. -/
def addPattern (draft : Draft) (tag : TypeTag) (r : Rule) : Draft :=
  { draft with
    patternRules := draft.patternRules ++ [r]
    firstPattern := draft.firstPattern <|> some (tag, r.name) }

/-- Adds a rule of the provider. -/
def addRule (p : Provider) (draft : Draft) (name : String) (argument : Value) :
    Except DefinitionFault Draft :=
  match p.resolve name with
  | .error stuck => .error (.unknownRule stuck.name stuck.formerNames)
  | .ok found => do
    let draft ← draft.take found.descriptor.name found.formerNames
    let arguments ← found.arguments argument
    let arguments ← found.prepared p arguments
    if found.descriptor.isTypeChecking then
      .ok { draft with typeRules := draft.typeRules ++ [found.rule arguments] }
    else .ok (draft.addPattern found.descriptor.semanticType (found.rule arguments))

/-- The values of an enumeration under a core name. -/
def valuesOf (key : CoreKey) (allowsNull : Bool) (v : Value) :
    Except DefinitionFault (List Value) :=
  match enumValues allowsNull v with
  | .ok values => .ok values
  | .error fault => .error (.badEnum key fault)

/-- Adds the values that a subject has to be among. -/
def addEnum (draft : Draft) (v : Value) : Except DefinitionFault Draft := do
  let values ← valuesOf .enum false v
  .ok (draft.addPattern (enumTag values)
    ⟨CoreKey.enum.name, .list values, .enumeration, []⟩)

/-- Adds values that rescue a subject. The value null makes the ruleset nullable instead. -/
def addAlternativeEnum (draft : Draft) (v : Value) : Except DefinitionFault Draft := do
  let values ← valuesOf .alternativeEnum true v
  let others := values.filter fun v => !v.isNull
  .ok { draft with
    nullable := draft.nullable || values.any Value.isNull
    alternativeEnum := if others.isEmpty then none else some others }

/-- The part of a fallback that a fallback must not have. -/
def nestedPart? (r : Ruleset) : Option CoreKey :=
  if r.alternativeRuleSet.isSome then some .alternativeRuleSet
  else if r.tableElements.isSome then some .tableElements
  else if r.listItems.isSome then some .listItems
  else none

/-- Adds rules that rescue a subject. -/
def addAlternative (draft : Draft) (r : Ruleset) : Except DefinitionFault Draft :=
  match nestedPart? r with
  | some found => .error (.nestedAlternative found)
  | none => .ok { draft with alternativeRuleSet := some r }

/-- Adds a core entry whose name is taken already. -/
def addCore (read : RulesetReader) (place : Location) (draft : Draft) (key : CoreKey)
    (v : Value) : Except DefinitionError Draft :=
  match key with
  | .optional => do
    let b ← located place (flagOf key.name v)
    .ok { draft with optional := b }
  | .nullable => do
    let b ← located place (flagOf key.name v)
    .ok { draft with nullable := draft.nullable || b }
  | .empty => do
    let b ← located place (flagOf key.name v)
    .ok { draft with empty := b }
  | .nonEmpty => do
    let b ← located place (flagOf key.name v)
    .ok { draft with nonEmpty := b }
  | .enum => located place (draft.addEnum v)
  | .alternativeEnum => located place (draft.addAlternativeEnum v)
  | .alternativeRuleSet => do
    let r ← read v place.deeper
    located place (draft.addAlternative r)
  | .tableElements => do
    let t ← TableElements.ofDescription read place v
    .ok { draft with tableElements := some t }
  | .listItems => do
    let l ← ListItems.ofDescription read place v
    .ok { draft with listItems := some l }

/-- Adds an entry. -/
def add (p : Provider) (read : RulesetReader) (place : Location) (draft : Draft) :
    Entry → Except DefinitionError Draft
  | .core key v => do
    let draft ← located place (draft.take key.name [])
    draft.addCore read place key v
  | .rule name v => located place (draft.addRule p name v)

/-- Adds entries, in order. -/
def addAll (p : Provider) (read : RulesetReader) (place : Location) (draft : Draft) :
    List Entry → Except DefinitionError Draft
  | [] => .ok draft
  | entry :: rest => do
    let draft ← draft.add p read place entry
    draft.addAll p read place rest

/-! ## Finishing -/

/-- What the flags say about empty subjects. -/
def emptiness (draft : Draft) : Except DefinitionFault (Option Emptiness) :=
  match draft.empty, draft.nonEmpty with
  | true, true => .error .contradictoryFlags
  | true, false => .ok (some .empty)
  | false, true => .ok (some .nonEmpty)
  | false, false => .ok none

/-- A rule that was not declared. -/
def injected (name : String) : Rule := ⟨name, .flag, .typeCheck, []⟩

/-- The type-checking rules, with a guard if none was declared: the one of containers in front of rules for
children, else one for the first pattern rule. A ruleset that only speaks about emptiness needs none. -/
def guarded (p : Provider) (draft : Draft) (emptiness : Option Emptiness) :
    Except DefinitionFault (List Rule) :=
  if !draft.typeRules.isEmpty then .ok draft.typeRules
  else if draft.tableElements.isSome || draft.listItems.isSome then
    .ok [injected p.containerGuard]
  else match draft.firstPattern with
    | some (tag, name) =>
      match p.typeGuard tag with
      | some guard => .ok [injected guard]
      | none => .error (.noTypeGuard name)
    | none => if emptiness.isSome then .ok [] else .error .emptyRuleset

/-- The ruleset of a draft. -/
def finish (p : Provider) (draft : Draft) : Except DefinitionFault Ruleset := do
  let emptiness ← draft.emptiness
  let typeRules ← draft.guarded p emptiness
  .ok
    { typeRules := typeRules
      patternRules := draft.patternRules
      optional := draft.optional
      nullable := draft.nullable
      emptiness := emptiness
      alternativeEnum := draft.alternativeEnum
      alternativeRuleSet := draft.alternativeRuleSet
      tableElements := draft.tableElements
      listItems := draft.listItems }

end Draft

end Rulebook
