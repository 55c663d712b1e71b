import Rulebook.Description.Fault
import Rulebook.Ruleset.Basic

/-!
# Rules for children in a description

A table declares rulesets by key, plainly or under a member of its own beside a policy for the other
keys. A list declares one ruleset for its items, plainly or under a member of its own beside bounds on
their number. How a ruleset is read below is a parameter here.
-/

namespace Rulebook

open Json (Value Members)

/-- How a ruleset at a place is read. -/
abbrev RulesetReader := Value → Location → Except DefinitionError Ruleset

/-- The result of a step, with its fault put at a place. -/
def located {α : Type} (place : Location) : Except DefinitionFault α → Except DefinitionError α
  | .ok a => .ok a
  | .error fault => .error ⟨fault, place⟩

/-- The first key of an object that is not among the allowed ones. -/
def unexpectedKey? (allowed : List String) (members : Members) : Option String :=
  (Association.keys members).find? fun key => !allowed.contains key

/-- Whether an object has one of the keys. -/
def hasAnyKey (keys : List String) (members : Members) : Bool :=
  keys.any fun key => (Association.lookup key members).isSome

/-- A flag that may be left out. -/
def flagOf (name : String) : Value → Except DefinitionFault Bool
  | .bool b => .ok b
  | _ => .error (.badFlag name)

/-! ## Tables -/

/-- The keys beside the declared elements, and the key of the elements themselves. -/
def tableKeys : List String := ["rulesByElements", "exclusive", "whitelist", "blacklist"]

/-- The keys of a list of keys, each at its first place. -/
def keysOf (name : String) (declared : List String) (known : List String) :
    List Value → Except DefinitionFault (List String)
  | [] => .ok known
  | .string key :: rest =>
    if declared.contains key then .error (.membership (.declaredKey name key))
    else keysOf name declared (if known.contains key then known else known ++ [key]) rest
  | other :: _ => .error (.membership (.notKey name other))

/-- A list of undeclared keys. An empty list counts as none. -/
def keyList? (name : String) (declared : List String) :
    Option Value → Except DefinitionFault (Option (List String))
  | none => .ok none
  | some (.array items) =>
    match keysOf name declared [] items with
    | .ok [] => .ok none
    | .ok keys => .ok (some keys)
    | .error fault => .error fault
  | some _ => .error (.membership (.notList name))

/-- The policy that is set, of which there is at most one. -/
def Membership.ofSettings? : Bool → Option (List String) → Option (List String) → Option Membership
  | false, none, none => some .open
  | true, none, none => some .exclusive
  | false, some keys, none => some (.whitelist keys)
  | false, none, some keys => some (.blacklist keys)
  | _, _, _ => none

/-- The policy for undeclared keys. -/
def Membership.ofMembers (declared : List String) (members : Members) :
    Except DefinitionFault Membership := do
  let exclusive ← match Association.lookup "exclusive" members with
    | none => .ok false
    | some v => flagOf "exclusive" v
  let whitelist ← keyList? "whitelist" declared (Association.lookup "whitelist" members)
  let blacklist ← keyList? "blacklist" declared (Association.lookup "blacklist" members)
  match Membership.ofSettings? exclusive whitelist blacklist with
  | some m => .ok m
  | none => .error (.membership .severalPolicies)

/-- The declared elements, each read one level deeper. -/
def readElements (read : RulesetReader) (place : Location) :
    Members → Except DefinitionError (List (String × Ruleset))
  | [] => .ok []
  | (key, v) :: rest => do
    let r ← read v (place.element key)
    let others ← readElements read place rest
    .ok ((key, r) :: others)

/-- The members that declare elements. -/
def elementMembers (members : Members) : Except DefinitionFault Members :=
  if hasAnyKey tableKeys members then
    match unexpectedKey? tableKeys members with
    | some key => .error (.unexpectedKey .tableElements key)
    | none =>
      match Association.lookup "rulesByElements" members with
      | some (.object elements) => .ok elements
      | some _ => .error (.badShape .declaredElements)
      | none => .error .emptyTableElements
  else .ok members

/-- The table that a description declares. -/
def TableElements.ofDescription (read : RulesetReader) (place : Location) :
    Value → Except DefinitionError (TableElements Ruleset)
  | .object members => do
    let declared ← located place (elementMembers members)
    if declared.isEmpty then .error ⟨.emptyTableElements, place⟩
    else
      let elements ← readElements read place declared
      let membership ← located place
        (if hasAnyKey tableKeys members then
          Membership.ofMembers (Association.keys elements) members
        else .ok .open)
      .ok ⟨elements, membership⟩
  | _ => .error ⟨.badShape .tableElements, place⟩

/-! ## Lists -/

/-- The keys beside the rules for items, and the key of these rules themselves. -/
def listKeys : List String := ["itemRules", "minOccur", "maxOccur"]

/-- A bound on the number of items, zero if it is left out. -/
def occurrenceOf (name : String) : Option Value → Except DefinitionFault Nat
  | none => .ok 0
  | some v =>
    match v.count? with
    | some n => .ok n
    | none => .error (.occurrence (.notCount name v))

/-- The bounds on the number of items. A greatest number of zero is no bound. -/
def occurrences (members : Members) : Except DefinitionFault (Nat × Option Nat) := do
  let least ← occurrenceOf "minOccur" (Association.lookup "minOccur" members)
  let most ← occurrenceOf "maxOccur" (Association.lookup "maxOccur" members)
  if most = 0 then .ok (least, none)
  else if most < least then .error (.occurrence (.inverted most least))
  else .ok (least, some most)

/-- The description of every item, with the bounds on their number, from the object around them. -/
def itemSettings (members : Members) : Except DefinitionFault (Value × Nat × Option Nat) :=
  match unexpectedKey? listKeys members with
  | some key => .error (.unexpectedKey .listItems key)
  | none =>
    match Association.lookup "itemRules" members with
    | none => .error (.badShape .listItems)
    | some v =>
      match occurrences members with
      | .ok bounds => .ok (v, bounds)
      | .error fault => .error fault

/-- The description of every item, with the bounds on their number. A description without a member for
them is the one of the items itself. -/
def itemDescription : Value → Except DefinitionFault (Value × Nat × Option Nat)
  | .object members =>
    if hasAnyKey listKeys members then itemSettings members
    else .ok (.object members, 0, none)
  | v => .ok (v, 0, none)

/-- The list that a description declares. -/
def ListItems.ofDescription (read : RulesetReader) (place : Location) (description : Value) :
    Except DefinitionError (ListItems Ruleset) := do
  let (items, least, most) ← located place (itemDescription description)
  let rules ← read items place.everyItem
  .ok ⟨least, most, rules⟩

end Rulebook
