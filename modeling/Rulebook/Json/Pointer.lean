import Rulebook.Json.Value

/-!
# JSON pointers

A pointer names a value inside another one: a slash and a token for every step down. A token is a key of
an object or the decimal index of an array; `~1` in it stands for a slash and `~0` for a tilde.
-/

namespace Rulebook.Json

/-- The tokens of a pointer behind its first slash, as they are written. -/
def pointerTokens : List Char → List (List Char)
  | [] => [[]]
  | c :: rest =>
    if c = '/' then [] :: pointerTokens rest
    else
      match pointerTokens rest with
      | token :: others => (c :: token) :: others
      | [] => [[c]]

/-- A token with a marker and a digit behind a tilde read as another character. -/
def unescapeToken (digit : Char) (plain : Char) : List Char → List Char
  | '~' :: c :: rest =>
    if c = digit then plain :: unescapeToken digit plain rest
    else '~' :: unescapeToken digit plain (c :: rest)
  | c :: rest => c :: unescapeToken digit plain rest
  | [] => []

/-- The key that a token stands for. -/
def tokenKey (token : List Char) : String :=
  String.ofList (unescapeToken '0' '~' (unescapeToken '1' '/' token))

/-- The index that a key stands for: decimal digits that do not start with a zero, unless that is the only
one. -/
def indexOf? (key : String) : Option Nat :=
  let ds := key.toList
  if ds.isEmpty || !ds.all Char.isDigit || (ds.head? == some '0' && ds.length != 1) then none
  else some (ds.foldl (fun n d => 10 * n + (d.toNat - '0'.toNat)) 0)

/-- The part of a value under a key. -/
def Value.under? (key : String) : Value → Option Value
  | .object members => Association.lookup key members
  | .array items =>
    match indexOf? key with
    | some i => items[i]?
    | none => none
  | _ => none

/-- The value at the end of a path of keys. -/
def Value.follow? : List String → Value → Option Value
  | [], v => some v
  | key :: rest, v =>
    match v.under? key with
    | some inner => inner.follow? rest
    | none => none

/-- The value that a pointer names. The empty pointer names the whole value; any other one starts with a
slash. -/
def Value.at? (pointer : String) (v : Value) : Option Value :=
  match pointer.toList with
  | [] => some v
  | '/' :: rest => v.follow? ((pointerTokens rest).map tokenKey)
  | _ => none

end Rulebook.Json
