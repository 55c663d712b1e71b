import Rulebook.Json.Value
import Rulebook.Location

/-!
# Entries of a description

A description of a ruleset is an object, a list of bare names and objects, or a bare name. Whatever its
shape, it lists entries: a name with an argument. Nine names belong to the language of descriptions;
every other name is a rule that a provider has to know.
-/

namespace Rulebook

open Json (Value Members)

/-- The names that belong to the language of descriptions. -/
inductive CoreKey where
  | optional
  | nullable
  | empty
  | nonEmpty
  | enum
  | alternativeEnum
  | alternativeRuleSet
  | tableElements
  | listItems
  deriving DecidableEq, Repr

/-- A core name as it is written. -/
def CoreKey.name : CoreKey → String
  | .optional => "optional"
  | .nullable => "nullable"
  | .empty => "empty"
  | .nonEmpty => "nonEmpty"
  | .enum => "enum"
  | .alternativeEnum => "alternativeEnum"
  | .alternativeRuleSet => "alternativeRuleSet"
  | .tableElements => "tableElements"
  | .listItems => "listItems"

/-- The core names. -/
def CoreKey.all : List CoreKey :=
  [.optional, .nullable, .empty, .nonEmpty, .enum, .alternativeEnum, .alternativeRuleSet,
    .tableElements, .listItems]

/-- The core name that is written so. -/
def CoreKey.ofName? (name : String) : Option CoreKey :=
  CoreKey.all.find? fun key => key.name == name

/-- An entry of a description. -/
inductive Entry where
  | core (key : CoreKey) (argument : Value)
  | rule (name : String) (argument : Value)
  deriving Repr

/-- The entry of a name with its argument. -/
def Entry.named (name : String) (argument : Value) : Entry :=
  match CoreKey.ofName? name with
  | some key => .core key argument
  | none => .rule name argument

/-- The entry of a name that stands alone: it is switched on. -/
def Entry.bare (name : String) : Entry := .named name (.bool true)

/-- Whether a key only gives a place in a list: one or more of the ten digits. -/
def isOrdinal (key : String) : Bool :=
  !key.toList.isEmpty && key.toList.all Char.isDigit

/-- The entry of a member. A string under an ordinal key is a bare name. -/
def Entry.ofMember (key : String) (argument : Value) : Entry :=
  match argument with
  | .string name => if isOrdinal key then .bare name else .named key argument
  | _ => .named key argument

/-- The entries of an object, in order. -/
def Entry.ofMembers (members : Members) : List Entry :=
  members.map fun m => Entry.ofMember m.1 m.2

/-- The entries of one item of a list: a bare name gives one entry, an object as many as it has
members. -/
def Entry.ofItem? : Value → Option (List Entry)
  | .string name => some [.bare name]
  | .object members => some (Entry.ofMembers members)
  | _ => none

/-- The entries of a list, in order. -/
def Entry.ofItems? : List Value → Option (List Entry)
  | [] => some []
  | item :: rest =>
    match Entry.ofItem? item, Entry.ofItems? rest with
    | some first, some others => some (first ++ others)
    | _, _ => none

end Rulebook
