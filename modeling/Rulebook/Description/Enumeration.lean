import Rulebook.Description.Fault

/-!
# Lists of values in a description

The values that an enumeration lists are scalars. The narrowest tag that covers them chooses the
type-checking rule in front of them.
-/

namespace Rulebook

open Json (Value)

/-- A list of values may be wrapped in a list of one item. -/
def unwrapped : List Value → List Value
  | [.array inner] => inner
  | values => values

/-- What is wrong with a value of an enumeration. -/
def enumValueFault? (allowsNull : Bool) : Value → Option EnumFault
  | .null => if allowsNull then none else some .nullValue
  | .array items => some (.notScalar (.array items))
  | .object members => some (.notScalar (.object members))
  | _ => none

/-- The values that an enumeration lists: at least one, and only scalars. -/
def enumValues (allowsNull : Bool) : Value → Except EnumFault (List Value)
  | .array items =>
    let values := unwrapped items
    if values.isEmpty then .error .noValues
    else match values.findSome? (enumValueFault? allowsNull) with
      | some fault => .error fault
      | none => .ok values
  | _ => .error .notList

/-- Whether a value is an integer. -/
def Json.Value.isInteger : Value → Bool
  | .number n => n.isInt
  | _ => false

/-- The narrowest tag that covers every value of a list. -/
def enumTag (values : List Value) : TypeTag :=
  if values.all Value.isInteger then .integer
  else if values.all fun v => v.string?.isSome then .string
  else if values.all fun v => v.bool?.isSome then .boolean
  else if values.all fun v => v.number?.isSome then .number
  else .scalar

end Rulebook
