import Rulebook.Json.Printer
import Rulebook.Json.Reader
import Rulebook.Text.Quoted

/-!
# Reading values of a known type

Where a value of one type is expected, it is read straight from the text. A scalar of another type is
read to its end before it is refused, an array or an object is refused where it starts.
-/

namespace Rulebook.Json.Reader

/-- How a report names the type of a number. -/
def numberFound (n : Number) : String :=
  (if n.isInt then "integer " else "floating point ")
    ++ Text.ticked (String.ofList (Number.text n))

/-- Refuses the value under the cursor. -/
def refuse {α : Type} (path : Path) (expected : String) : Reader α := do
  match ← peekToken with
  | some 'n' =>
    word path ['n', 'u', 'l', 'l']
    fail path (.invalidType "null" expected)
  | some 't' =>
    word path ['t', 'r', 'u', 'e']
    fail path (.invalidType ("boolean " ++ Text.ticked "true") expected)
  | some 'f' =>
    word path ['f', 'a', 'l', 's', 'e']
    fail path (.invalidType ("boolean " ++ Text.ticked "false") expected)
  | some '-' =>
    skip
    let n ← number path true
    fail path (.invalidType (numberFound n) expected)
  | some '"' =>
    let s ← string path
    fail path (.invalidType ("string " ++ Text.quoted s) expected)
  | some '[' => fail path (.invalidType "sequence" expected)
  | some '\x7b' => fail path (.invalidType "map" expected)
  | some c =>
    if c.isDigit then
      let n ← number path false
      fail path (.invalidType (numberFound n) expected)
    else failAtNext path .expectedValue
  | none => failAtNext path .endInValue

/-- Reads a Boolean. -/
def boolean (path : Path) : Reader Bool := do
  match ← peekToken with
  | some 't' =>
    word path ['t', 'r', 'u', 'e']
    return true
  | some 'f' =>
    word path ['f', 'a', 'l', 's', 'e']
    return false
  | _ => refuse path "a boolean"

/-- Reads a string where one is expected. -/
def textOr (expected : String) (path : Path) : Reader String := do
  match ← peekToken with
  | some '"' => string path
  | _ => refuse path expected

/-- Reads a string. -/
def text (path : Path) : Reader String := textOr "a string" path

/-- Reads a value that may be null. -/
def optional {α : Type} (inner : Path → Reader α) (path : Path) : Reader (Option α) := do
  match ← peekToken with
  | some 'n' =>
    word path ['n', 'u', 'l', 'l']
    return none
  | _ => some <$> inner path

/-- Opens an array or an object, of which so many may still be opened. -/
def opening {α : Type} (levels : Nat) (path : Path) (inside : Nat → Reader α) : Reader α :=
  match levels with
  | 0 => failAtNext path .tooDeep
  | levels + 1 => inside levels

/-- Reads an array of values of one type. -/
def listOf {α : Type} (item : Nat → Path → Reader α) (levels : Nat) (path : Path) :
    Reader (List α) := do
  match ← peekToken with
  | some '[' => opening levels path fun levels => array path (item levels)
  | _ => refuse path "a sequence"

/-! ## Alternatives -/

/-- Reads the name of an alternative. -/
def variantName {α : Type} (names : List (String × α)) (path : Path) :
    Reader (String × α) := do
  let name ← textOr "variant identifier" path
  match Association.lookup name names with
  | some a => return (name, a)
  | none => fail path (.unknownVariant name (Association.keys names))

/-- Reads a null. -/
def unit (path : Path) : Reader Unit := do
  match ← peekToken with
  | some 'n' => word path ['n', 'u', 'l', 'l']
  | _ => refuse path "unit"

/-- Takes the brace behind the content of an alternative. -/
def closeVariant (path : Path) : Reader Unit := do
  match ← peekToken with
  | some '\x7d' => skip
  | some _ => fail path .expectedValue
  | none => fail path .endInObject

/-- Reads one of several names: as a string, or as an object with the name as its only key and null as the
value of that key. -/
def variant {α : Type} (names : List (String × α)) (levels : Nat) (path : Path) :
    Reader α := do
  match ← peekToken with
  | some '"' => Prod.snd <$> variantName names path
  | some '\x7b' =>
    opening levels path fun _ => do
      skip
      let (name, a) ← variantName names path
      colon path
      unit (path ++ [.variant name])
      closeVariant path
      return a
  | some _ => failAtNext path .expectedValue
  | none => failAtNext path .endInValue

/-! ## Fields -/

/-- A field of a structured value of type `σ`. -/
structure FieldReader (σ : Type) where
  name : String
  /-- Whether the field must be there. -/
  needed : Bool
  /-- Reads the field's value and says how it is put into the whole. -/
  read : Nat → Path → Reader (σ → σ)

section Fields

variable {σ : Type} (fields : List (FieldReader σ))

/-- Fails behind the bracket or brace that may follow. -/
def failBehind {α : Type} (path : Path) (close : Char) (fault : ReadFault) : Reader α := do
  if (← peekToken) == some close then skip
  fail path fault

/-- Reads the members of an object into the fields. Unknown and repeated keys are refused. The fuel is a
bound on the bytes left. -/
def fieldsByKey (levels : Nat) (path : Path) :
    Nat → (first : Bool) → (taken : List String) → σ → Reader σ
  | 0, _, _, _ => fail path .endInObject
  | fuel + 1, first, taken, whole => do
    match ← nextKey path first with
    | none =>
      match fields.find? fun f => f.needed && !taken.contains f.name with
      | some f => failBehind path '\x7d' (.missingField f.name)
      | none =>
        closeObject path
        return whole
    | some key =>
      match fields.find? fun f => f.name == key with
      | none =>
        failBehind (path ++ [.key key]) '\x7d' (.unknownField key (fields.map FieldReader.name))
      | some f =>
        if taken.contains key then failBehind path '\x7d' (.duplicateField key)
        else
          colon path
          let put ← f.read levels (path ++ [.key key])
          fieldsByKey levels path fuel false (key :: taken) (put whole)

/-- Reads the items of an array into the fields, in order. Only fields that need not be there may be left
out at the end. -/
def fieldsByPlace (levels : Nat) (path : Path) (expected : String) :
    (index : Nat) → List (FieldReader σ) → σ → Reader σ
  | _, [], whole => do
    closeArray path
    return whole
  | index, f :: rest, whole => do
    if ← nextItem path (index == 0) then
      let put ← f.read levels (path ++ [.index index])
      fieldsByPlace levels path expected (index + 1) rest (put whole)
    else if f.needed then failBehind path ']' (.invalidLength index expected)
    else fieldsByPlace levels path expected (index + 1) rest whole

/-- Reads a structured value, as an object with the fields as its members or as an array of the fields in
order. -/
def structured (name : String) (blank : σ) (levels : Nat) (path : Path) : Reader σ := do
  match ← peekToken with
  | some '[' =>
    opening levels path fun levels => do
      skip
      fieldsByPlace levels path s!"struct {name} with {fields.length} elements" 0 fields blank
  | some '\x7b' =>
    opening levels path fun levels => do
      skip
      fieldsByKey fields levels path ((← rest).length + 1) true [] blank
  | _ => refuse path s!"struct {name}"

end Fields

end Rulebook.Json.Reader
