import Rulebook.Json.Value
import Rulebook.Decimal.Shortest

/-!
# JSON text of a value

Two layouts: compact text without blanks, and an indented layout with one item or member per line.
Both share the spelling of numbers and strings.
-/

namespace Rulebook.Json

/-- The decimal digits of a natural number. -/
def decimalText (n : Nat) : List Char := Nat.toDigits 10 n

/-- The decimal text of an integer. -/
def integerText (i : Int) : List Char :=
  if i < 0 then '-' :: decimalText i.natAbs else decimalText i.natAbs

/-- One decimal digit as a character. -/
def digitChar (d : Nat) : Char := Nat.digitChar d

/-- Positional notation holds from `10^-5` up to, but not including, `10^16`: these are the places of
the decimal point for which it is used. -/
def isPositional (point : Int) : Bool := -4 ≤ point && point ≤ 16

/-- Positional notation; a number without fraction ends in `.0`. -/
def positionalText (digits : List Nat) (point : Int) : List Char :=
  let ds := digits.map digitChar
  if point ≤ 0 then '0' :: '.' :: (List.replicate point.natAbs '0' ++ ds)
  else if ds.length ≤ point.toNat then
    ds ++ List.replicate (point.toNat - ds.length) '0' ++ ['.', '0']
  else ds.take point.toNat ++ '.' :: ds.drop point.toNat

/-- Scientific notation: one digit before the point, and a sign on every exponent. -/
def scientificText (digits : List Nat) (point : Int) : List Char :=
  let ds := digits.map digitChar
  let mantissa := match ds with
    | [] => ['0']
    | [d] => [d]
    | d :: fraction => d :: '.' :: fraction
  let exponent := point - 1
  mantissa ++ 'e' :: (if exponent < 0 then '-' else '+') :: decimalText exponent.natAbs

/-- The text of a binary64 number: its shortest decimal, always with a point or an exponent. -/
def binary64Text (x : Binary64) : List Char :=
  let magnitude :=
    if x.significand = 0 then ['0', '.', '0']
    else
      let d := Decimal.shortest x
      if isPositional d.point then positionalText d.digits d.point
      else scientificText d.digits d.point
  if x.negative then '-' :: magnitude else magnitude

/-- The text of a number. -/
def Number.text : Number → List Char
  | .int i => integerText i
  | .float x => binary64Text x

/-- One hexadecimal digit, in lower case. -/
def hexDigit (d : Nat) : Char := Nat.digitChar (d % 16)

/-- A character inside a string. Only quotes, backslashes and control characters below `U+0020` are
escaped. -/
def escaped (c : Char) : List Char :=
  match c with
  | '"' => ['\\', '"']
  | '\\' => ['\\', '\\']
  | '\x08' => ['\\', 'b']
  | '\x0c' => ['\\', 'f']
  | '\n' => ['\\', 'n']
  | '\r' => ['\\', 'r']
  | '\t' => ['\\', 't']
  | c =>
    if c.toNat < 0x20 then ['\\', 'u', '0', '0', hexDigit (c.toNat / 16), hexDigit c.toNat]
    else [c]

/-- A quoted string. -/
def quoted (s : String) : List Char :=
  '"' :: (s.toList.flatMap escaped ++ ['"'])

mutual

/-- The compact text of a value. -/
def Value.chars : Value → List Char
  | .null => ['n', 'u', 'l', 'l']
  | .bool true => ['t', 'r', 'u', 'e']
  | .bool false => ['f', 'a', 'l', 's', 'e']
  | .number n => n.text
  | .string s => quoted s
  | .array items => '[' :: (itemChars true items ++ [']'])
  | .object members => '{' :: (memberChars true members ++ ['}'])

/-- The items of an array, with a comma in front of all but the first. -/
def itemChars (first : Bool) : List Value → List Char
  | [] => []
  | v :: rest => (if first then [] else [',']) ++ v.chars ++ itemChars false rest

/-- The members of an object, with a comma in front of all but the first. -/
def memberChars (first : Bool) : Members → List Char
  | [] => []
  | (key, v) :: rest =>
    (if first then [] else [',']) ++ quoted key ++ ':' :: v.chars ++ memberChars false rest

end

/-- The compact text of a value. -/
def Value.text (v : Value) : String := String.ofList v.chars

/-- A line break and the indentation of a level, two blanks each. -/
def lineBreak (level : Nat) : List Char := '\n' :: List.replicate (2 * level) ' '

mutual

/-- The indented text of a value that stands at a level. Empty arrays and objects stay on one line. -/
def Value.indented (level : Nat) : Value → List Char
  | .array [] => ['[', ']']
  | .array (v :: rest) =>
    '[' :: (lineBreak (level + 1) ++ v.indented (level + 1) ++ indentedItems (level + 1) rest
      ++ lineBreak level ++ [']'])
  | .object [] => ['{', '}']
  | .object ((key, v) :: rest) =>
    '{' :: (lineBreak (level + 1) ++ quoted key ++ ':' :: ' ' :: v.indented (level + 1)
      ++ indentedMembers (level + 1) rest ++ lineBreak level ++ ['}'])
  | v => v.chars

/-- The items after the first one. -/
def indentedItems (level : Nat) : List Value → List Char
  | [] => []
  | v :: rest => ',' :: (lineBreak level ++ v.indented level ++ indentedItems level rest)

/-- The members after the first one. -/
def indentedMembers (level : Nat) : Members → List Char
  | [] => []
  | (key, v) :: rest =>
    ',' :: (lineBreak level ++ quoted key ++ ':' :: ' ' :: v.indented level
      ++ indentedMembers level rest)

end

/-- The indented text of a value. -/
def Value.prettyText (v : Value) : String := String.ofList (v.indented 0)

end Rulebook.Json
