import Rulebook.Filter.Token

/-!
# Reading filters

A filter is a chain of joined terms. A term begins with a dot, a literal, a name or a bracketed filter, and
is followed by any number of parts.
-/

namespace Rulebook.Filter

open Json (Value)

/-- The number that is written with these characters, if it is one of JSON. -/
def numberOf? (text : List Char) : Option Value :=
  let whole := text.dropWhile (· == '0')
  let text := if text.all Char.isDigit then (if whole.isEmpty then ['0'] else whole) else text
  (Value.ofText (String.ofList text)).toOption

/-- The values that have a name of their own. -/
def constant? : String → Option Value
  | "null" => some .null
  | "true" => some (.bool true)
  | "false" => some (.bool false)
  | _ => none

/-- The filter that goes by a lone name. -/
def named (name : String) : Filter :=
  match constant? name with
  | some v => .literal v
  | none => .call name []

mutual

/-- Reads terms joined by commas, chained by bars. -/
def chain : Nat → List Token → Option (Filter × List Token)
  | 0, _ => none
  | fuel + 1, ts => do
    let (first, ts) ← joined fuel ts
    match ts with
    | .symbol '|' :: ts =>
      let (second, ts) ← chain fuel ts
      return (.pipe first second, ts)
    | ts => return (first, ts)

/-- Reads terms joined by commas. -/
def joined : Nat → List Token → Option (Filter × List Token)
  | 0, _ => none
  | fuel + 1, ts => do
    let (first, ts) ← signed fuel ts
    match ts with
    | .symbol ',' :: ts =>
      let (second, ts) ← joined fuel ts
      return (.join first second, ts)
    | ts => return (first, ts)

/-- Reads a term, which may have a sign. -/
def signed : Nat → List Token → Option (Filter × List Token)
  | 0, _ => none
  | fuel + 1, ts =>
    match ts with
    | .symbol '-' :: ts => do
      let (term, ts) ← signed fuel ts
      return (.negate term, ts)
    | ts => term fuel ts

/-- Reads a term with its parts. -/
def term : Nat → List Token → Option (Filter × List Token)
  | 0, _ => none
  | fuel + 1, ts =>
    match ts with
    | .symbol '.' :: .text key :: ts => parts fuel (.part .identity (.literal (.string key))) ts
    | .symbol '.' :: ts => parts fuel .identity ts
    | .field key :: ts => parts fuel (.part .identity (.literal (.string key))) ts
    | .number text :: ts => do parts fuel (.literal (← numberOf? text)) ts
    | .text s :: ts => parts fuel (.literal (.string s)) ts
    | .variable name :: ts => parts fuel (.call ("$" ++ name) []) ts
    | .symbol '(' :: ts => do
      let (inner, ts) ← chain fuel ts
      match ts with
      | .symbol ')' :: ts => parts fuel inner ts
      | _ => none
    | .name name :: .symbol '(' :: ts => do
      let (arguments, ts) ← arguments fuel ts
      parts fuel (.call name arguments) ts
    | .name name :: ts => parts fuel (named name) ts
    | _ => none

/-- Reads the arguments of a name up to the closing bracket. -/
def arguments : Nat → List Token → Option (List Filter × List Token)
  | 0, _ => none
  | fuel + 1, ts => do
    let (first, ts) ← chain fuel ts
    match ts with
    | .symbol ';' :: ts =>
      let (others, ts) ← arguments fuel ts
      return (first :: others, ts)
    | .symbol ')' :: ts => return ([first], ts)
    | _ => none

/-- Reads the parts behind a term. -/
def parts : Nat → Filter → List Token → Option (Filter × List Token)
  | 0, _, _ => none
  | fuel + 1, outer, ts =>
    match ts with
    | .field key :: ts => parts fuel (.part outer (.literal (.string key))) ts
    | .symbol '.' :: .text key :: ts => parts fuel (.part outer (.literal (.string key))) ts
    | .symbol '.' :: .symbol '[' :: ts => parts fuel outer (.symbol '[' :: ts)
    | .symbol '[' :: .symbol ']' :: ts => parts fuel (.each outer) ts
    | .symbol '[' :: ts => do
      let (key, ts) ← chain fuel ts
      match ts with
      | .symbol ']' :: ts => parts fuel (.part outer key) ts
      | _ => none
    | ts => some (outer, ts)

end

/-- The filter of a text. Every token is read at most six levels deep, which bounds the fuel. -/
def ofText? (text : String) : Option Filter := do
  let ts ← tokens? text.toList
  match ← chain (6 * ts.length + 6) ts with
  | (f, []) => some f
  | _ => none

end Rulebook.Filter
