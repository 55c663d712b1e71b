import Rulebook.Pattern.Escape

/-!
# Bracketed classes

Reading what stands between square brackets: characters, ranges, nested classes and the operators
between them. Operators have one precedence and group to the left.
-/

namespace Rulebook.Pattern

/-- The items of a class read so far, latest first, and the span that they cover. -/
structure Items where
  span : Span
  items : List ClassSet

/-- No items, at a place. -/
def Items.at (p : Place) : Items := ⟨⟨p, p⟩, []⟩

/-- The items with one more. -/
def Items.push (u : Items) (s : ClassSet) : Items :=
  { span := ⟨if u.items.isEmpty then s.span.start else u.span.start, s.span.stop⟩
    items := s :: u.items }

/-- The items as one class set. -/
def Items.toSet (u : Items) : ClassSet :=
  match u.items with
  | [] => .empty u.span
  | [s] => s
  | many => .union u.span many.reverse

/-- What is unfinished while a class is read. -/
inductive ClassFrame where
  /-- An open bracket, with the items around it. -/
  | opened (around : Items) (span : Span) (negated : Bool)
  /-- An operator that waits for its right side. -/
  | operator (kind : ClassOperator) (left : ClassSet)

/-- The classes with a name in colons. -/
def asciiClass? (name : String) : Option (List (Nat × Nat)) :=
  match name with
  | "alnum" => some [(0x30, 0x39), (0x41, 0x5A), (0x61, 0x7A)]
  | "alpha" => some [(0x41, 0x5A), (0x61, 0x7A)]
  | "ascii" => some [(0x00, 0x7F)]
  | "blank" => some [(0x09, 0x09), (0x20, 0x20)]
  | "cntrl" => some [(0x00, 0x1F), (0x7F, 0x7F)]
  | "digit" => some [(0x30, 0x39)]
  | "graph" => some [(0x21, 0x7E)]
  | "lower" => some [(0x61, 0x7A)]
  | "print" => some [(0x20, 0x7E)]
  | "punct" => some [(0x21, 0x2F), (0x3A, 0x40), (0x5B, 0x60), (0x7B, 0x7E)]
  | "space" => some [(0x09, 0x0D), (0x20, 0x20)]
  | "upper" => some [(0x41, 0x5A)]
  | "word" => some [(0x30, 0x39), (0x41, 0x5A), (0x5F, 0x5F), (0x61, 0x7A)]
  | "xdigit" => some [(0x30, 0x39), (0x41, 0x46), (0x61, 0x66)]
  | _ => none

/-- The text of a class with a name in colons, split into its negation and its name, and the number of
its characters. -/
def colonName? (text : List Char) : Option (Bool × String × Nat) :=
  match text with
  | '[' :: ':' :: rest =>
    let negated := rest.head? == some '^'
    let rest := if negated then rest.drop 1 else rest
    let name := rest.takeWhile (· != ':')
    if [':', ']'].isPrefixOf (rest.drop name.length) then
      some (negated, String.ofList name, name.length + (if negated then 5 else 4))
    else none
  | _ => none

namespace Scan

/-- Reads a class with a name in colons, if there is one; otherwise nothing is read. -/
def asciiClass : Scan (Option ClassSet) := do
  let start ← here
  match colonName? (← get).rest with
  | none => return none
  | some (negated, name, length) =>
    match asciiClass? name with
    | none => return none
    | some ranges =>
      modify (forwardBy · length)
      return some (.ascii (← spanFrom start) ranges negated)

/-- The fault of a class that is not closed: it points at the innermost open bracket. -/
def unclosed {α : Type} (frames : List ClassFrame) : Scan α := do
  let opened := frames.filterMap fun
    | .opened _ span _ => some span
    | .operator _ _ => none
  fail (opened.headD (← emptySpan)) .classUnclosed

/-- Takes the hyphens at the start of a class, which stand for themselves. The fuel is a bound on the
characters left. -/
def leadingHyphens (start : Place) : Nat → Items → Scan Items
  | 0, items => return items
  | fuel + 1, items => do
    if (← peek) == some '-' then
      let items := items.push (.literal ⟨← charSpan, '-', false⟩)
      if ← bumpAndSpace then leadingHyphens start fuel items
      else fail ⟨start, start⟩ .classUnclosed
    else return items

/-- Reads the start of a class at its opening bracket: the frame of the bracket and the first items. A
closing bracket in the first place stands for itself. -/
def openClass (around : Items) : Scan (ClassFrame × Items) := do
  let start ← here
  if !(← bumpAndSpace) then fail (← spanFrom start) .classUnclosed
  let negated := (← peek) == some '^'
  if negated then
    if !(← bumpAndSpace) then fail (← spanFrom start) .classUnclosed
  let items ← leadingHyphens start ((← get).rest.length + 1) (Items.at (← here))
  if items.items.isEmpty && (← peek) == some ']' then
    let items := items.push (.literal ⟨← charSpan, ']', false⟩)
    if !(← bumpAndSpace) then fail (← spanFrom start) .classUnclosed
    return (.opened around (← spanFrom start) negated, items)
  else return (.opened around (← spanFrom start) negated, items)

/-- Reads one character or escape of a class. -/
def classAtom (frames : List ClassFrame) : Scan Atom := do
  match ← peek with
  | none => unclosed frames
  | some '\\' => escape
  | some c =>
    let span ← charSpan
    let _ ← bump
    return .literal ⟨span, c, false⟩

/-- An atom as an item of a class. -/
def toItem : Atom → Scan ClassSet
  | .literal l => return .literal l
  | .shorthand s => return .shorthand s
  | .property p => return .property p
  | a => fail a.span .classEscapeInvalid

/-- An atom as the end of a range. -/
def toRangeEnd : Atom → Scan Literal
  | .literal l => return l
  | a => fail a.span .classRangeLiteral

/-- Reads a character or a range. A hyphen in front of a closing bracket or of another hyphen makes no
range. -/
def classItem (frames : List ClassFrame) : Scan ClassSet := do
  let first ← classAtom frames
  bumpSpace
  if ← atEnd then unclosed frames
  let behind ← peekPastSpace
  if (← peek) != some '-' || behind == some ']' || behind == some '-' then toItem first
  else
    if !(← bumpAndSpace) then unclosed frames
    let second ← classAtom frames
    let span : Span := ⟨first.span.start, second.span.stop⟩
    let low ← toRangeEnd first
    let high ← toRangeEnd second
    if high.char < low.char then fail span .classRangeInvalid
    else return .range span low high

/-- Gives the waiting operator, if there is one, its right side. -/
def applyOperator (right : ClassSet) : List ClassFrame → ClassSet × List ClassFrame
  | .operator kind left :: rest =>
    (.binary ⟨left.span.start, right.span.stop⟩ kind left right, rest)
  | frames => (right, frames)

/-- The operator that comes next, if any. -/
def classOperator? (c : Char) (second : Option Char) : Option ClassOperator :=
  if second != some c then none
  else match c with
    | '&' => some .intersection
    | '-' => some .difference
    | '~' => some .symmetricDifference
    | _ => none

/-- Reads a class from some point on, with its open frames, innermost first. The fuel is a bound on
the characters left. -/
def classFrom : Nat → List ClassFrame → Items → Scan Tree
  | 0, frames, _ => unclosed frames
  | fuel + 1, frames, items => do
    bumpSpace
    match ← peek with
    | none => unclosed frames
    | some '[' =>
      let named ← if frames.isEmpty then pure none else asciiClass
      match named with
      | some s => classFrom fuel frames (items.push s)
      | none =>
        let (frame, inner) ← openClass items
        classFrom fuel (frame :: frames) inner
    | some ']' =>
      match applyOperator items.toSet frames with
      | (body, .opened around span negated :: rest) =>
        let _ ← bump
        let span : Span := ⟨span.start, ← here⟩
        if rest.isEmpty then return .bracketed span negated body
        else classFrom fuel rest (around.push (.bracketed span negated body))
      | (_, frames) => unclosed frames
    | some c =>
      match classOperator? c (← peekSecond) with
      | some kind =>
        modify (forwardBy · 2)
        let (left, frames) := applyOperator items.toSet frames
        classFrom fuel (.operator kind left :: frames) (Items.at (← here))
      | none => classFrom fuel frames (items.push (← classItem frames))

/-- Reads a class at its opening bracket. -/
def bracketed : Scan Tree := do
  classFrom (2 * (← get).rest.length + 2) [] (Items.at (← here))

end Scan

end Rulebook.Pattern
