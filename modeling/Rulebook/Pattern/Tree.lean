import Rulebook.Pattern.Error

/-!
# Patterns as trees

The tree that the text of a pattern stands for. Every node that can cause an error later on keeps its
span.
-/

namespace Rulebook.Pattern

/-- One character of a pattern. -/
structure Literal where
  span : Span
  char : Char
  /-- Whether it was written as two hexadecimal digits, which may stand for a byte. -/
  isByte : Bool
  deriving DecidableEq, Repr

/-- The classes with a letter of their own. -/
inductive LetterClass where
  | digit
  | space
  | word
  deriving DecidableEq, Repr

/-- A class with a letter of its own, such as `\d`. -/
structure Shorthand where
  span : Span
  kind : LetterClass
  negated : Bool
  deriving DecidableEq, Repr

/-- How a character property is asked for. -/
inductive PropertyQuery where
  /-- By the name of a property, a category or a script. -/
  | name (name : List Char)
  /-- By a property and its value; `differs` asks for the characters with another value. -/
  | value (differs : Bool) (name value : List Char)
  deriving DecidableEq, Repr

/-- A class of the characters with a property, such as `\p{L}`. -/
structure Property where
  span : Span
  query : PropertyQuery
  negated : Bool
  deriving DecidableEq, Repr

/-- Operators between classes. -/
inductive ClassOperator where
  | intersection
  | difference
  | symmetricDifference
  deriving DecidableEq, Repr

/-- What a bracketed class holds. -/
inductive ClassSet where
  | empty (span : Span)
  | literal (l : Literal)
  | range (span : Span) (first last : Literal)
  /-- A class with a name in colons; the ranges are those of the name. -/
  | ascii (span : Span) (ranges : List (Nat × Nat)) (negated : Bool)
  | property (p : Property)
  | shorthand (s : Shorthand)
  | bracketed (span : Span) (negated : Bool) (body : ClassSet)
  | union (span : Span) (items : List ClassSet)
  | binary (span : Span) (operator : ClassOperator) (left right : ClassSet)
  deriving Repr

/-- The part of the pattern that a class set was read from. -/
def ClassSet.span : ClassSet → Span
  | .empty span => span
  | .literal l => l.span
  | .range span _ _ => span
  | .ascii span _ _ => span
  | .property p => p.span
  | .shorthand s => s.span
  | .bracketed span _ _ => span
  | .union span _ => span
  | .binary span _ _ _ => span

/-- The flags that change how a pattern is read or matched. -/
inductive Flag where
  | caseInsensitive
  | multiLine
  | dotMatchesNewLine
  | swapGreed
  | unicode
  | crlf
  | ignoreWhitespace
  deriving DecidableEq, Repr

/-- A list of flags to set and to clear, each with its new value. -/
abbrev Settings := List (Flag × Bool)

/-- Conditions on a place in the text. -/
inductive Assertion where
  | startLine
  | endLine
  | startText
  | endText
  | wordBoundary
  | notWordBoundary
  | wordStart
  | wordEnd
  | wordStartHalf
  | wordEndHalf
  deriving DecidableEq, Repr

/-- A pattern. -/
inductive Tree where
  | empty (span : Span)
  /-- A change of flags up to the end of the group around it. -/
  | flags (span : Span) (settings : Settings)
  | literal (l : Literal)
  | dot (span : Span)
  | assertion (span : Span) (kind : Assertion)
  | property (p : Property)
  | shorthand (s : Shorthand)
  | bracketed (span : Span) (negated : Bool) (body : ClassSet)
  /-- At least `least` and, if there is a bound, at most `most` times the body. -/
  | repetition (span : Span) (least : Nat) (most : Option Nat) (body : Tree)
  /-- A group, with the flags that hold inside it. -/
  | group (span : Span) (settings : Settings) (body : Tree)
  | alternation (span : Span) (branches : List Tree)
  | concat (span : Span) (parts : List Tree)
  deriving Repr

/-- The part of the pattern that a tree was read from. -/
def Tree.span : Tree → Span
  | .empty span => span
  | .flags span _ => span
  | .literal l => l.span
  | .dot span => span
  | .assertion span _ => span
  | .property p => p.span
  | .shorthand s => s.span
  | .bracketed span _ _ => span
  | .repetition span _ _ _ => span
  | .group span _ _ => span
  | .alternation span _ => span
  | .concat span _ => span

/-- Trees and bracketed classes may be nested this deep. -/
def nestLimit : Nat := 250

mutual

/-- The first class set, from outside to inside, that lies deeper than the limit, for a set at a given
depth. -/
def ClassSet.tooDeep? (depth : Nat) : ClassSet → Option Span
  | .bracketed span _ body =>
    if nestLimit ≤ depth then some span else body.tooDeep? (depth + 1)
  | .union span items =>
    if nestLimit ≤ depth then some span else ClassSet.firstTooDeep? (depth + 1) items
  | .binary span _ left right =>
    if nestLimit ≤ depth then some span
    else (left.tooDeep? (depth + 1)).or (right.tooDeep? (depth + 1))
  | _ => none

/-- The first class set of a list that lies deeper than the limit. -/
def ClassSet.firstTooDeep? (depth : Nat) : List ClassSet → Option Span
  | [] => none
  | s :: rest => (s.tooDeep? depth).or (ClassSet.firstTooDeep? depth rest)

end

mutual

/-- The first subtree, from outside to inside, that lies deeper than the limit, for a tree at a given
depth. -/
def Tree.tooDeep? (depth : Nat) : Tree → Option Span
  | .bracketed span _ body =>
    if nestLimit ≤ depth then some span else body.tooDeep? (depth + 1)
  | .repetition span _ _ body =>
    if nestLimit ≤ depth then some span else body.tooDeep? (depth + 1)
  | .group span _ body =>
    if nestLimit ≤ depth then some span else body.tooDeep? (depth + 1)
  | .alternation span branches =>
    if nestLimit ≤ depth then some span else Tree.firstTooDeep? (depth + 1) branches
  | .concat span parts =>
    if nestLimit ≤ depth then some span else Tree.firstTooDeep? (depth + 1) parts
  | _ => none

/-- The first tree of a list that lies deeper than the limit. -/
def Tree.firstTooDeep? (depth : Nat) : List Tree → Option Span
  | [] => none
  | t :: rest => (t.tooDeep? depth).or (Tree.firstTooDeep? depth rest)

end

end Rulebook.Pattern
