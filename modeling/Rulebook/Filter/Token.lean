import Rulebook.Filter.Basic
import Rulebook.Json.Reader

/-!
# Tokens of filters

The text of a filter is a sequence of names, fields, numbers, strings and symbols, with blanks between
them where they like.
-/

namespace Rulebook.Filter

open Json (Value)

/-- A token. -/
inductive Token where
  | name (name : String)
  /-- A name behind a dot. -/
  | field (name : String)
  /-- A name behind a dollar sign. -/
  | variable (name : String)
  /-- The characters of a number. -/
  | number (text : List Char)
  | text (s : String)
  | symbol (c : Char)
  deriving DecidableEq, Repr

/-- Whether a character begins a name. -/
def beginsName (c : Char) : Bool := c.isAlpha || c == '_'

/-- Whether a character continues a name. -/
def continuesName (c : Char) : Bool := c.isAlphanum || c == '_'

/-- The symbols that filters are built with. -/
def symbols : List Char := ['.', '[', ']', '(', ')', '|', ',', '-', ';']

/-- The characters of a string up to its closing quote, as they are written, and what follows. -/
def untilQuote : List Char → Option (List Char × List Char)
  | [] => none
  | '"' :: rest => some ([], rest)
  | '\\' :: c :: rest =>
    match untilQuote rest with
    | some (raw, after) => some ('\\' :: c :: raw, after)
    | none => none
  | c :: rest =>
    match untilQuote rest with
    | some (raw, after) => some (c :: raw, after)
    | none => none

/-- The string that is written with these characters between quotes. -/
def stringOf? (raw : List Char) : Option String :=
  match Value.ofText ("\"" ++ String.ofList raw ++ "\"") with
  | .ok v => v.string?
  | .error _ => none

/-- The digits at the start of a text and what follows; there has to be one. -/
def digits? (cs : List Char) : Option (List Char × List Char) :=
  if (cs.takeWhile Char.isDigit).isEmpty then none
  else some (cs.takeWhile Char.isDigit, cs.dropWhile Char.isDigit)

/-- The fraction at the start of a text, if there is one, and what follows. -/
def fraction? : List Char → Option (List Char × List Char)
  | '.' :: rest =>
    match digits? rest with
    | some (ds, after) => some ('.' :: ds, after)
    | none => none
  | cs => some ([], cs)

/-- The exponent at the start of a text, if there is one, and what follows. -/
def exponent? : List Char → Option (List Char × List Char)
  | c :: rest =>
    if c = 'e' ∨ c = 'E' then
      match rest with
      | sign :: more =>
        if sign = '+' ∨ sign = '-' then
          match digits? more with
          | some (ds, after) => some (c :: sign :: ds, after)
          | none => none
        else
          match digits? rest with
          | some (ds, after) => some (c :: ds, after)
          | none => none
      | [] => none
    else some ([], c :: rest)
  | [] => some ([], [])

/-- The number at the start of a text and what follows. -/
def number? (cs : List Char) : Option (List Char × List Char) := do
  let (whole, rest) ← digits? cs
  let (fraction, rest) ← fraction? rest
  let (exponent, rest) ← exponent? rest
  return (whole ++ fraction ++ exponent, rest)

/-- The name at the start of a text and what follows. -/
def nameOf (cs : List Char) : String × List Char :=
  (String.ofList (cs.takeWhile continuesName), cs.dropWhile continuesName)

/-- The token that begins with a character, and what follows it. -/
def token? (c : Char) (rest : List Char) : Option (Token × List Char) :=
  if beginsName c then
    let (name, after) := nameOf (c :: rest)
    some (.name name, after)
  else if c.isDigit then
    match number? (c :: rest) with
    | some (text, after) => some (.number text, after)
    | none => none
  else if c = '"' then
    match untilQuote rest with
    | some (raw, after) =>
      match stringOf? raw with
      | some s => some (.text s, after)
      | none => none
    | none => none
  else if (c = '.' ∨ c = '$') ∧ rest.head?.any beginsName then
    let (name, after) := nameOf rest
    some (if c = '.' then .field name else .variable name, after)
  else if symbols.contains c then some (.symbol c, rest)
  else none

/-- The tokens of a text. The fuel is a bound on its length. -/
def tokensWithin : Nat → List Char → Option (List Token)
  | _, [] => some []
  | 0, _ => none
  | fuel + 1, c :: rest =>
    if c = ' ' ∨ c = '\t' ∨ c = '\n' ∨ c = '\r' then tokensWithin fuel rest
    else
      match token? c rest with
      | some (t, after) => (t :: ·) <$> tokensWithin fuel after
      | none => none

/-- The tokens of a text. -/
def tokens? (cs : List Char) : Option (List Token) := tokensWithin cs.length cs

end Rulebook.Filter
