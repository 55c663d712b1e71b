import Rulebook.Description.Draft

/-!
# Reading rulesets

A description of a ruleset is read into its canonical form: its entries are listed, drafted one after the
other, and finished. Rulesets inside are read one level deeper, and there are only so many levels.
-/

namespace Rulebook

open Json (Value)

/-- The entries of a description, in order. -/
def Entry.ofDescription : Value → Except DefinitionFault (List Entry)
  | .object members => .ok (Entry.ofMembers members)
  | .string name => .ok [Entry.bare name]
  | .array items =>
    match Entry.ofItems? items with
    | some entries => .ok entries
    | none => .error (.badShape .rulesetItem)
  | _ => .error (.badShape .ruleset)

namespace Ruleset

/-- Reads a description with so many levels left, its own level included. -/
def ofDescriptionWithin (p : Provider) : Nat → Value → Location → Except DefinitionError Ruleset
  | 0, _, place => .error ⟨.recursionLimit, place⟩
  | levels + 1, description, place => do
    let entries ← located place (Entry.ofDescription description)
    let draft ← Draft.blank.addAll p (ofDescriptionWithin p levels) place entries
    located place (draft.finish p)

/-- Reads a description at a place. -/
def ofDescriptionAt (p : Provider) (description : Value) (place : Location) :
    Except DefinitionError Ruleset :=
  ofDescriptionWithin p (maxDepth + 1 - place.depth) description place

/-- Reads the description of a ruleset for top-level subjects. -/
def ofDescription (p : Provider) (description : Value) : Except DefinitionError Ruleset :=
  ofDescriptionAt p description .root

end Ruleset

end Rulebook
