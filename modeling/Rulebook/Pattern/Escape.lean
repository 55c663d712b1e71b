import Rulebook.Pattern.Scanner
import Rulebook.Text.Ascii

/-!
# Escapes in patterns

What a backslash begins: characters written by code point, classes with a letter, properties, and
conditions on a place.
-/

namespace Rulebook.Pattern

/-- A part of a pattern that is not made of other parts. -/
inductive Atom where
  | literal (l : Literal)
  | assertion (span : Span) (kind : Assertion)
  | dot (span : Span)
  | shorthand (s : Shorthand)
  | property (p : Property)

/-- The part of the pattern that an atom was read from. -/
def Atom.span : Atom → Span
  | .literal l => l.span
  | .assertion span _ => span
  | .dot span => span
  | .shorthand s => s.span
  | .property p => p.span

/-- An atom as a tree. -/
def Atom.toTree : Atom → Tree
  | .literal l => .literal l
  | .assertion span kind => .assertion span kind
  | .dot span => .dot span
  | .shorthand s => .shorthand s
  | .property p => .property p

/-- Characters with a meaning of their own, which an escape takes away. -/
def isMeta (c : Char) : Bool :=
  ['\\', '.', '+', '*', '?', '(', ')', '|', '[', ']', '\x7b', '\x7d', '^', '$', '#', '&', '-',
    '~'].contains c

/-- Characters that an escape stands for as they are: all of ASCII but letters, digits and angle
brackets. -/
def isEscapable (c : Char) : Bool :=
  isMeta c || (c.toNat < 128 && !c.isAlphanum && c != '<' && c != '>')

/-- The character with a code point, if there is one. -/
def scalar? (n : Nat) : Option Char :=
  if n < 0xD800 ∨ (0xDFFF < n ∧ n ≤ 0x10FFFF) then some (Char.ofNat n) else none

namespace Scan

/-- Reads a fixed number of hexadecimal digits, of which some have been read. -/
def hexDigits : Nat → (first : Bool) → List Char → Scan (List Char)
  | 0, _, digits => return digits.reverse
  | more + 1, first, digits => do
    if !first then
      if !(← bumpAndSpace) then fail (← emptySpan) .escapeUnfinished
    match ← peek with
    | none => fail (← emptySpan) .escapeUnfinished
    | some c =>
      if Text.isHexDigit c then hexDigits more false (c :: digits)
      else fail (← charSpan) .hexInvalidDigit

/-- Reads the characters between braces, where the scanner stands at the opening one. The fuel is a
bound on the characters left. -/
def braced (digitsOnly : Bool) : Nat → List Char → Scan (List Char)
  | 0, chars => return chars.reverse
  | fuel + 1, chars => do
    if ← bumpAndSpace then
      match ← peek with
      | some '\x7d' => return chars.reverse
      | some c =>
        if digitsOnly && !Text.isHexDigit c then fail (← charSpan) .hexInvalidDigit
        else braced digitsOnly fuel (c :: chars)
      | none => return chars.reverse
    else return chars.reverse

/-- Reads a character written by its code point, where the scanner stands at the letter behind the
backslash. -/
def hexEscape (start : Place) : Scan Literal := do
  let letter ← peek
  if !(← bumpAndSpace) then fail (← emptySpan) .escapeUnfinished
  if (← peek) == some '\x7b' then
    let brace ← here
    let first := (← charSpan).stop
    let digits ← braced true ((← get).rest.length + 1) []
    if ← atEnd then fail (← spanFrom brace) .escapeUnfinished
    let stop ← here
    let _ ← bumpAndSpace
    if digits.isEmpty then fail (← spanFrom brace) .hexEmpty
    match scalar? (Text.digitsValue 16 digits) with
    | some c => return ⟨← spanFrom start, c, false⟩
    | none => fail ⟨first, stop⟩ .hexInvalid
  else
    let first ← here
    let count := if letter == some 'x' then 2 else if letter == some 'u' then 4 else 8
    let digits ← hexDigits count true []
    let _ ← bumpAndSpace
    match scalar? (Text.digitsValue 16 digits) with
    | some c => return ⟨← spanFrom start, c, letter == some 'x'⟩
    | none => fail (← spanFrom first) .hexInvalid

/-- The two sides of the first occurrence of a separator. -/
def splitAtFirst (separator : List Char) : List Char → Option (List Char × List Char)
  | [] => none
  | c :: rest =>
    if separator.isPrefixOf (c :: rest) then some ([], (c :: rest).drop separator.length)
    else (splitAtFirst separator rest).map fun (a, b) => (c :: a, b)

/-- How the text between braces asks for a property. -/
def propertyQuery (text : List Char) : PropertyQuery :=
  match splitAtFirst ['!', '='] text with
  | some (name, value) => .value true name value
  | none =>
    match splitAtFirst [':'] text with
    | some (name, value) => .value false name value
    | none =>
      match splitAtFirst ['='] text with
      | some (name, value) => .value false name value
      | none => .name text

/-- Reads a property, where the scanner stands at the letter behind the backslash. -/
def property (start : Place) : Scan Property := do
  let negated := (← peek) == some 'P'
  if !(← bumpAndSpace) then fail (← emptySpan) .escapeUnfinished
  match ← peek with
  | some '\x7b' =>
    let text ← braced false ((← get).rest.length + 1) []
    if ← atEnd then fail (← emptySpan) .escapeUnfinished
    let _ ← bump
    return ⟨← spanFrom start, propertyQuery text, negated⟩
  | some '\\' => fail (← charSpan) .propertyInvalid
  | some c =>
    let _ ← bumpAndSpace
    return ⟨← spanFrom start, .name [c], negated⟩
  | none => fail (← emptySpan) .escapeUnfinished

/-- Characters in the name of a special word boundary. -/
def isBoundaryChar (c : Char) : Bool := c.isAlpha || c == '-'

/-- Reads the name of a special word boundary. The fuel is a bound on the characters left. -/
def boundaryName : Nat → List Char → Scan (List Char)
  | 0, chars => return chars.reverse
  | fuel + 1, chars => do
    match ← peek with
    | some c =>
      if isBoundaryChar c then
        let _ ← bumpAndSpace
        boundaryName fuel (c :: chars)
      else return chars.reverse
    | none => return chars.reverse

/-- Reads the braces behind a word boundary, if they name a special one; braces that hold anything but
a name are left to be read as a repetition. -/
def specialBoundary? (start : Place) : Scan (Option Assertion) := do
  let before ← get
  if !(← bumpAndSpace) then fail (← spanFrom start) .boundaryOrCountUnfinished
  let contents ← here
  match ← peek with
  | none => return none
  | some c =>
    if !isBoundaryChar c then
      set before
      return none
    else
      let name ← boundaryName ((← get).rest.length + 1) []
      if (← peek) != some '\x7d' then fail (← spanFrom before.place) .boundaryUnclosed
      let stop ← here
      let _ ← bump
      match String.ofList name with
      | "start" => return some .wordStart
      | "end" => return some .wordEnd
      | "start-half" => return some .wordStartHalf
      | "end-half" => return some .wordEndHalf
      | _ => fail ⟨contents, stop⟩ .boundaryUnrecognized

/-- The class with a letter of its own. -/
def letterClass? : Char → Option (LetterClass × Bool)
  | 'd' => some (.digit, false)
  | 'D' => some (.digit, true)
  | 's' => some (.space, false)
  | 'S' => some (.space, true)
  | 'w' => some (.word, false)
  | 'W' => some (.word, true)
  | _ => none

/-- Reads an escape at its backslash. -/
def escape : Scan Atom := do
  let start ← here
  if !(← bump) then fail (← spanFrom start) .escapeUnfinished
  match ← peek with
  | none => fail (← spanFrom start) .escapeUnfinished
  | some c =>
    if c.isDigit then fail ⟨start, (← charSpan).stop⟩ .backreference
    else if c = 'x' ∨ c = 'u' ∨ c = 'U' then .literal <$> hexEscape start
    else if c = 'p' ∨ c = 'P' then .property <$> property start
    else
      let _ ← bump
      let span ← spanFrom start
      match letterClass? c with
      | some (kind, negated) => return .shorthand ⟨span, kind, negated⟩
      | none =>
        if isEscapable c then return .literal ⟨span, c, false⟩
        else match c with
          | 'a' => return .literal ⟨span, '\x07', false⟩
          | 'f' => return .literal ⟨span, '\x0c', false⟩
          | 't' => return .literal ⟨span, '\t', false⟩
          | 'n' => return .literal ⟨span, '\n', false⟩
          | 'r' => return .literal ⟨span, '\r', false⟩
          | 'v' => return .literal ⟨span, '\x0b', false⟩
          | 'A' => return .assertion span .startText
          | 'z' => return .assertion span .endText
          | 'B' => return .assertion span .notWordBoundary
          | '<' => return .assertion span .wordStart
          | '>' => return .assertion span .wordEnd
          | 'b' =>
            if (← peek) == some '\x7b' then
              match ← specialBoundary? start with
              | some kind => return .assertion (← spanFrom start) kind
              | none => return .assertion span .wordBoundary
            else return .assertion span .wordBoundary
          | _ => fail span .escapeUnrecognized

end Scan

end Rulebook.Pattern
