/-!
# Type tags

Every rule declares the kinds of subject it works on. A tag is a set of base kinds; the named
composites are unions of base kinds. Tags are used to find a type-checking rule that can guard
another rule, never to check a subject.
-/

namespace Rulebook

/-- A set of base kinds, one bit each. -/
structure TypeTag where
  bits : BitVec 8
  deriving DecidableEq, Repr

namespace TypeTag

/-- Booleans. -/
def boolean : TypeTag := ⟨1⟩

/-- Integers. -/
def integer : TypeTag := ⟨2⟩

/-- Numbers with a fraction or an exponent. -/
def float : TypeTag := ⟨4⟩

/-- Strings. -/
def string : TypeTag := ⟨8⟩

/-- The null value. -/
def null : TypeTag := ⟨16⟩

/-- Arrays. -/
def list : TypeTag := ⟨32⟩

/-- Objects. -/
def map : TypeTag := ⟨64⟩

/-- Marks that numbers written as strings are welcome too. -/
def stringable : TypeTag := ⟨128⟩

/-- The empty set of kinds. -/
def empty : TypeTag := ⟨0⟩

/-- The kinds of either tag. -/
def union (a b : TypeTag) : TypeTag := ⟨a.bits ||| b.bits⟩

instance : Union TypeTag := ⟨union⟩

/-- Whether every kind of the second tag belongs to the first one. -/
def contains (a b : TypeTag) : Bool := a.bits &&& b.bits == b.bits

/-- Whether the tags have a kind in common. -/
def intersects (a b : TypeTag) : Bool := a.bits &&& b.bits != 0

/-- The number of base kinds. -/
def size (a : TypeTag) : Nat := (List.range 8).countP fun i => a.bits.getLsbD i

/-- Numbers of either kind. -/
def number : TypeTag := integer ∪ float

/-- Numbers, and strings that hold a number. -/
def numeric : TypeTag := stringable ∪ integer ∪ float

/-- Integers, and strings that hold one. -/
def digital : TypeTag := stringable ∪ integer

/-- Floats, and strings that hold a decimal fraction. -/
def decimal : TypeTag := stringable ∪ float

/-- Numbers and strings. -/
def stringableScalar : TypeTag := stringable ∪ string ∪ integer ∪ float

/-- Everything but containers and null. -/
def scalar : TypeTag := boolean ∪ integer ∪ float ∪ string

/-- Everything but containers. -/
def scalarNullable : TypeTag := scalar ∪ null

/-- Arrays and objects. -/
def container : TypeTag := list ∪ map

/-- Every kind. -/
def any : TypeTag := scalarNullable ∪ container ∪ stringable

/-- The tags that have a name. -/
def named : List (String × TypeTag) :=
  [("BOOLEAN", boolean), ("INTEGER", integer), ("FLOAT", float), ("STRING", string),
    ("NULL", null), ("LIST", list), ("MAP", map), ("STRINGABLE", stringable),
    ("NUMBER", number), ("NUMERIC", numeric), ("DIGITAL", digital), ("DECIMAL", decimal),
    ("STRINGABLE_SCALAR", stringableScalar), ("SCALAR", scalar),
    ("SCALAR_NULLABLE", scalarNullable), ("CONTAINER", container), ("ANY", any)]

/-- The name of a tag. -/
def name? (a : TypeTag) : Option String :=
  (named.find? fun entry => entry.2 == a).map Prod.fst

/-- The tag with a name. -/
def ofName? (name : String) : Option TypeTag :=
  (named.find? fun entry => entry.1 == name).map Prod.snd

/-- The bits of a tag in base two. -/
def bitText (a : TypeTag) : String := "0b" ++ String.ofList (Nat.toDigits 2 a.bits.toNat)

/-- The name of a tag, or its bits if it has none. -/
def text (a : TypeTag) : String := a.name?.getD a.bitText

/-- The tag with its type, for diagnostics. -/
def qualifiedText (a : TypeTag) : String :=
  match a.name? with
  | some name => "TypeTag::" ++ name
  | none => "TypeTag(" ++ a.bitText ++ ")"

end TypeTag

end Rulebook
