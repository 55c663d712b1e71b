import Rulebook.Json.Value
import Rulebook.Json.ReadError
import Rulebook.Text.Utf8

/-!
# Reading JSON text

A reader takes bytes off a cursor and gives an answer or an error; the cursor stays where reading
stopped, in both cases. A value is read up to its end and not beyond: what follows it is the concern
of the caller. Nesting is limited, and the recursion of `value` counts the arrays and objects that may
still be opened.
-/

namespace Rulebook.Json

/-- A computation that reads from a cursor. -/
abbrev Reader := ExceptT ReadError (StateM Cursor)

namespace Reader

/-- Arrays and objects may be nested this deep. -/
def nestingLimit : Nat := 127

/-- Runs a reader at the start of an input. -/
def runOn {α : Type} (r : Reader α) (bytes : List UInt8) : Except ReadError α :=
  (r.run (Cursor.start bytes)).1

/-- Fails at the position behind what has been read. -/
def fail {α : Type} (path : Path) (fault : ReadFault) : Reader α := do
  throw ⟨path, fault, (← getThe Cursor).position⟩

/-- Fails at the byte under the cursor. -/
def failAtNext {α : Type} (path : Path) (fault : ReadFault) : Reader α := do
  throw ⟨path, fault, (← getThe Cursor).peekPosition⟩

/-- The byte under the cursor. -/
def peek : Reader (Option Char) := do return (← getThe Cursor).peek?

/-- Takes one byte. -/
def skip : Reader Unit := modifyThe Cursor Cursor.next

/-- Takes some bytes. -/
def advance (n : Nat) : Reader Unit := modifyThe Cursor (Cursor.advance · n)

/-- The bytes that are left. -/
def rest : Reader (List UInt8) := do return (← getThe Cursor).rest

/-- The bytes that may stand between tokens. -/
def isBlank (b : UInt8) : Bool := b == 32 || b == 9 || b == 10 || b == 13

/-- Skips blanks and gives the byte that follows them. -/
def peekToken : Reader (Option Char) := do
  advance ((← rest).takeWhile isBlank).length
  peek

/-- Takes the letters of a word; the first letter that differs is taken too. -/
def word (path : Path) : List Char → Reader Unit
  | [] => pure ()
  | c :: more => do
    match ← peek with
    | none => fail path .endInValue
    | some d =>
      skip
      if c = d then word path more else fail path .expectedIdentifier

/-! ## Numbers -/

/-- Whether a byte is a decimal digit. -/
def isDigit (b : UInt8) : Bool := 48 ≤ b && b ≤ 57

/-- One above the greatest significand. -/
def significandCeiling : Nat := 0x10000000000000000

/-- Appends digits to a significand as long as it stays below the ceiling, and gives it with the digits that
are left. -/
def appendDigits (n : Nat) : List UInt8 → Nat × List UInt8
  | [] => (n, [])
  | b :: more =>
    let next := 10 * n + (b.toNat - 48)
    if next < significandCeiling then appendDigits next more else (n, b :: more)

/-- Takes the digits under the cursor. -/
def digits : Reader (List UInt8) := do
  let ds := (← rest).takeWhile isDigit
  advance ds.length
  return ds

/-- Exponents above this are not computed with. -/
def exponentLimit : Nat := 0x7FFFFFFF

/-- The exponent that the digits stand for; or, when it exceeds the limit, the number of digits up to
the one that exceeds it. -/
def exponentOf (n taken : Nat) : List UInt8 → Except Nat Nat
  | [] => .ok n
  | b :: more =>
    let n := 10 * n + (b.toNat - 48)
    if exponentLimit < n then .error (taken + 1) else exponentOf n (taken + 1) more

/-- Gives the number with a significand and a scale, if it is in range. -/
def decimal (path : Path) (negative : Bool) (significand : Nat) (scale : Int) : Reader Number :=
  match Binary64.ofParts? negative significand scale with
  | some x => return .float x
  | none => fail path .numberOutOfRange

/-- Takes the digits of an exponent, which are under the cursor, and gives the number with it. -/
def exponentDigits (path : Path) (negative minus : Bool) (significand : Nat) (scale : Int) :
    List UInt8 → Reader Number
  | [] => do
    if (← peek).isNone then fail path .endInValue
    else
      skip
      fail path .invalidNumber
  | ds =>
    match exponentOf 0 0 ds with
    | .error taken =>
      if significand ≠ 0 ∧ !minus then do
        advance taken
        fail path .numberOutOfRange
      else do
        advance ds.length
        return .float (Binary64.zero negative)
    | .ok e => do
      advance ds.length
      decimal path negative significand (if minus then scale - e else scale + e)

/-- Reads an exponent behind its letter and gives the number with it. -/
def exponent (path : Path) (negative : Bool) (significand : Nat) (scale : Int) :
    Reader Number := do
  let minus := (← peek) == some '-'
  if minus || (← peek) == some '+' then skip
  exponentDigits path negative minus significand scale ((← rest).takeWhile isDigit)

/-- Gives the number that ends with its integer digits. Some of them may not fit the significand. -/
def integer (path : Path) (negative : Bool) (significand excess : Nat) : Reader Number :=
  let i : Int := if negative then -significand else significand
  if negative && significand == 0 then return .float (Binary64.zero true)
  else if excess = 0 ∧ Number.least ≤ i ∧ i < Number.ceiling then return .int i
  else decimal path negative significand excess

/-- Reads what may follow the integer digits of a number, some of which may not fit the significand. Digits
behind the point that do not fit it either are of no account. -/
def numberTail (path : Path) (negative : Bool) (significand excess : Nat) : Reader Number := do
  match ← peek with
  | some '.' =>
    skip
    let fraction ← digits
    if fraction.isEmpty then
      failAtNext path (if (← peek).isNone then .endInValue else .invalidNumber)
    else
      let (significand, left) := appendDigits significand fraction
      let scale : Int := excess + left.length - fraction.length
      match ← peek with
      | some 'e' | some 'E' =>
        skip
        exponent path negative significand scale
      | _ => decimal path negative significand scale
  | some 'e' | some 'E' =>
    skip
    exponent path negative significand excess
  | _ => integer path negative significand excess

/-- Reads a number behind its sign. A zero is not followed by further integer digits. -/
def number (path : Path) (negative : Bool) : Reader Number := do
  match ← peek with
  | none => fail path .endInValue
  | some '0' =>
    skip
    if ((← rest).takeWhile isDigit).isEmpty then numberTail path negative 0 0
    else failAtNext path .invalidNumber
  | some _ =>
    match ← digits with
    | [] =>
      skip
      fail path .invalidNumber
    | ds =>
      let (significand, left) := appendDigits 0 ds
      numberTail path negative significand left.length

/-! ## Strings -/

/-- The value of a hexadecimal digit. -/
def hexValue? (b : UInt8) : Option Nat :=
  if 48 ≤ b ∧ b ≤ 57 then some (b.toNat - 48)
  else if 65 ≤ b ∧ b ≤ 70 then some (b.toNat - 55)
  else if 97 ≤ b ∧ b ≤ 102 then some (b.toNat - 87)
  else none

/-- Reads four hexadecimal digits. All four bytes are taken before they are judged. -/
def hexUnit (path : Path) : Reader Nat := do
  match ← rest with
  | a :: b :: c :: d :: _ =>
    advance 4
    match hexValue? a, hexValue? b, hexValue? c, hexValue? d with
    | some a, some b, some c, some d => return ((a * 16 + b) * 16 + c) * 16 + d
    | _, _, _, _ => fail path .invalidEscape
  | short =>
    advance short.length
    fail path .endInString

/-- Takes the given byte of the second half of a surrogate pair. -/
def pairByte (path : Path) (c : Char) : Reader Unit := do
  match ← peek with
  | none => fail path .endInString
  | some d =>
    skip
    if c = d then pure () else fail path .unexpectedEndOfHexEscape

/-- Reads the code point of a hexadecimal escape, which a code point above `U+FFFF` writes as a pair
of surrogates. -/
def hexEscape (path : Path) : Reader Char := do
  let first ← hexUnit path
  if 0xDC00 ≤ first ∧ first ≤ 0xDFFF then fail path .loneSurrogate
  else if first < 0xD800 ∨ 0xDBFF < first then return Char.ofNat first
  else
    pairByte path '\\'
    pairByte path 'u'
    let second ← hexUnit path
    if second < 0xDC00 ∨ 0xDFFF < second then fail path .loneSurrogate
    else return Char.ofNat (0x10000 + (first - 0xD800) * 1024 + (second - 0xDC00))

/-- Reads an escape behind its backslash. -/
def escape (path : Path) : Reader Char := do
  match ← peek with
  | none => fail path .endInString
  | some c =>
    skip
    match c with
    | '"' => return '"'
    | '\\' => return '\\'
    | '/' => return '/'
    | 'b' => return '\x08'
    | 'f' => return '\x0c'
    | 'n' => return '\n'
    | 'r' => return '\r'
    | 't' => return '\t'
    | 'u' => hexEscape path
    | _ => fail path .invalidEscape

/-- Reads a string behind its opening quote, with the characters read so far, latest first. A byte
that begins no character is passed over, and reported only when the string has been closed. The fuel
is a bound on the bytes left. -/
def stringTail (path : Path) :
    Nat → (bad : Option Position) → List Char → Reader String
  | 0, _, _ => fail path .endInString
  | fuel + 1, bad, chars => do
    match ← rest with
    | [] => fail path .endInString
    | b :: more =>
      if b = 34 then
        skip
        match bad with
        | some position => throw ⟨path, .invalidUnicode, position⟩
        | none => return String.ofList chars.reverse
      else if b = 92 then
        skip
        let c ← escape path
        stringTail path fuel bad (c :: chars)
      else if b < 32 then
        skip
        fail path .controlCharacter
      else
        match Utf8.beginning b more with
        | .char c length =>
          advance length
          stringTail path fuel bad (c :: chars)
        | _ =>
          let here := (← getThe Cursor).peekPosition
          skip
          stringTail path fuel (bad <|> some here) chars

/-- Reads a string at its opening quote. -/
def string (path : Path) : Reader String := do
  skip
  stringTail path ((← rest).length + 1) none []

/-! ## Arrays and objects -/

/-- Moves to the next item of an array, if there is one. -/
def nextItem (path : Path) (first : Bool) : Reader Bool := do
  match ← peekToken with
  | none => failAtNext path .endInArray
  | some ']' => return false
  | some c =>
    if first then return true
    else if c = ',' then
      skip
      match ← peekToken with
      | none => failAtNext path .endInValue
      | some ']' => failAtNext path .trailingComma
      | some _ => return true
    else failAtNext path .expectedCommaOrBracket

/-- The path of a member whose key is not known. -/
def unknownMember (path : Path) : Path := path ++ [.unknown]

/-- Moves to the next key of an object and reads it, if there is one. -/
def nextKey (path : Path) (first : Bool) : Reader (Option String) := do
  let path := unknownMember path
  match ← peekToken with
  | none => failAtNext path .endInObject
  | some '\x7d' => return none
  | some c =>
    if first then
      if c = '"' then some <$> string path else failAtNext path .keyNotString
    else if c = ',' then
      skip
      match ← peekToken with
      | none => failAtNext path .endInValue
      | some '"' => some <$> string path
      | some '\x7d' => failAtNext path .trailingComma
      | some _ => failAtNext path .keyNotString
    else failAtNext path .expectedCommaOrBrace

/-- Takes the colon behind a key. Its lack is an error of the object, not of the member. -/
def colon (path : Path) : Reader Unit := do
  match ← peekToken with
  | none => failAtNext path .endInObject
  | some ':' => skip
  | some _ => failAtNext path .expectedColon

/-- Takes the bracket that closes an array. -/
def closeArray (path : Path) : Reader Unit := do
  match ← peekToken with
  | none => failAtNext path .endInArray
  | some ']' => skip
  | some ',' =>
    skip
    match ← peekToken with
    | some ']' => failAtNext path .trailingComma
    | _ => failAtNext path .trailingCharacters
  | some _ => failAtNext path .trailingCharacters

/-- Takes the brace that closes an object. -/
def closeObject (path : Path) : Reader Unit := do
  match ← peekToken with
  | none => failAtNext path .endInObject
  | some '\x7d' => skip
  | some ',' => failAtNext path .trailingComma
  | some _ => failAtNext path .trailingCharacters

/-- Reads the items of an array from the one with the given index on. The fuel is a bound on the
bytes left. -/
def itemsFrom {α : Type} (path : Path) (item : Path → Reader α) :
    Nat → (index : Nat) → Reader (List α)
  | 0, _ => fail path .endInArray
  | fuel + 1, index => do
    if ← nextItem path (index == 0) then
      let v ← item (path ++ [.index index])
      (v :: ·) <$> itemsFrom path item fuel (index + 1)
    else return []

/-- Reads an array at its opening bracket. -/
def array {α : Type} (path : Path) (item : Path → Reader α) : Reader (List α) := do
  skip
  let items ← itemsFrom path item ((← rest).length + 1) 0
  closeArray path
  return items

/-- Reads the members of an object behind those read before. A repeated key keeps its first place and
takes its last value. The fuel is a bound on the bytes left. -/
def membersFrom (path : Path) (value : Path → Reader Value) :
    Nat → (first : Bool) → Members → Reader Members
  | 0, _, _ => fail path .endInObject
  | fuel + 1, first, members => do
    match ← nextKey path first with
    | none => return members
    | some key =>
      colon path
      let v ← value (path ++ [.key key])
      membersFrom path value fuel false (Association.insert key v members)

/-- Reads an object at its opening brace. -/
def object (path : Path) (value : Path → Reader Value) : Reader Members := do
  skip
  let members ← membersFrom path value ((← rest).length + 1) true []
  closeObject path
  return members

/-- Reads a value whose items and members are read by `inner`; without it, no array or object may be
opened any more. -/
def valueWith (inner : Option (Path → Reader Value)) (path : Path) : Reader Value := do
  match ← peekToken with
  | none => failAtNext path .endInValue
  | some 'n' =>
    word path ['n', 'u', 'l', 'l']
    return .null
  | some 't' =>
    word path ['t', 'r', 'u', 'e']
    return .bool true
  | some 'f' =>
    word path ['f', 'a', 'l', 's', 'e']
    return .bool false
  | some '"' => .string <$> string path
  | some '-' =>
    skip
    .number <$> number path true
  | some '[' =>
    match inner with
    | some inner => .array <$> array path inner
    | none => failAtNext path .tooDeep
  | some '\x7b' =>
    match inner with
    | some inner => .object <$> object path inner
    | none => failAtNext path .tooDeep
  | some c =>
    if c.isDigit then .number <$> number path false else failAtNext path .expectedValue

/-- Reads a value in which so many arrays and objects may be nested. -/
def value : Nat → Path → Reader Value
  | 0 => valueWith none
  | levels + 1 => valueWith (some (value levels))

end Reader

/-- The first value of a JSON text. What follows the value is not looked at. -/
def Value.ofBytes (bytes : List UInt8) : Except ReadError Value :=
  (Reader.value Reader.nestingLimit []).runOn bytes

/-- The first value of a JSON text. -/
def Value.ofText (text : String) : Except ReadError Value :=
  Value.ofBytes (Utf8.encode text.toList)

end Rulebook.Json
