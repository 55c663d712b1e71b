import Rulebook.Pattern.Tree
import Rulebook.Unicode.Property

/-!
# Regular expressions

What a pattern means, with its flags resolved: sets of characters, conditions on a place, and their
combinations. Which of several matches is preferred does not matter here.
-/

namespace Rulebook.Pattern

open Unicode (CharSet)

/-- A condition on a place in a text. -/
inductive Look where
  | start
  | stop
  | startLine
  | stopLine
  | startLineCrlf
  | stopLineCrlf
  /-- Conditions on the word characters to both sides, in Unicode or in ASCII. -/
  | boundary (unicode : Bool)
  | notBoundary (unicode : Bool)
  | wordStart (unicode : Bool)
  | wordEnd (unicode : Bool)
  | wordStartHalf (unicode : Bool)
  | wordEndHalf (unicode : Bool)
  deriving DecidableEq, Repr

/-- A regular expression. -/
inductive Expression where
  | empty
  /-- One character of a set. -/
  | one (set : CharSet)
  | look (condition : Look)
  | concat (parts : List Expression)
  | either (branches : List Expression)
  /-- At least `least` and, if there is a bound, at most `most` times the body. -/
  | repetition (least : Nat) (most : Option Nat) (body : Expression)
  deriving Repr

/-- The flags that hold at some point of a pattern. -/
structure Flags where
  caseInsensitive : Bool
  multiLine : Bool
  dotMatchesNewLine : Bool
  unicode : Bool
  crlf : Bool
  deriving DecidableEq, Repr

/-- The flags at the start of a pattern. -/
def Flags.initial : Flags := ⟨false, false, false, true, false⟩

/-- The flags after one setting. Greed does not change whether a text matches, and blanks have been
dealt with by the reader. -/
def Flags.set (f : Flags) : Flag × Bool → Flags
  | (.caseInsensitive, b) => { f with caseInsensitive := b }
  | (.multiLine, b) => { f with multiLine := b }
  | (.dotMatchesNewLine, b) => { f with dotMatchesNewLine := b }
  | (.unicode, b) => { f with unicode := b }
  | (.crlf, b) => { f with crlf := b }
  | (.swapGreed, _) => f
  | (.ignoreWhitespace, _) => f

/-- The flags after some settings. -/
def Flags.apply (f : Flags) (settings : Settings) : Flags := settings.foldl Flags.set f

/-- An answer, or a fault at a span. -/
abbrev Checked (α : Type) := Except (Span × Fault) α

/-- The character of a literal. Without Unicode, two hexadecimal digits stand for a byte, and a byte
outside ASCII is no character. -/
def Flags.char (f : Flags) (l : Literal) : Checked Char :=
  if !f.unicode && l.isByte && 128 ≤ l.char.toNat then .error (l.span, .invalidUtf8)
  else .ok l.char

/-- The character of a literal in a class, which has to be ASCII without Unicode. -/
def Flags.classChar (f : Flags) (l : Literal) : Checked Char := do
  let c ← f.char l
  if !f.unicode && 128 ≤ c.toNat then .error (l.span, .unicodeNotAllowed) else .ok c

/-- The set with the other cases of its characters, where case does not count. -/
def Flags.closeUnderCase (f : Flags) (s : CharSet) : CharSet :=
  if !f.caseInsensitive then s
  else if f.unicode then s.closeUnderCase
  else s.closeUnderAsciiCase

/-- A class after case and negation. Without Unicode it must not go beyond ASCII. -/
def Flags.classOf (f : Flags) (span : Span) (negated : Bool) (s : CharSet) : Checked CharSet :=
  let s := f.closeUnderCase s
  let s := if negated then s.complement else s
  if !f.unicode && !s.isAscii then .error (span, .invalidUtf8) else .ok s

/-- The characters of a class with a letter, in Unicode or in ASCII. -/
def LetterClass.chars (unicode : Bool) : LetterClass → CharSet
  | .digit => if unicode then Unicode.decimalDigits else ⟨[(0x30, 0x39)]⟩
  | .space => if unicode then Unicode.blanks else ⟨[(0x09, 0x0D), (0x20, 0x20)]⟩
  | .word =>
    if unicode then Unicode.wordChars
    else ⟨[(0x30, 0x39), (0x41, 0x5A), (0x5F, 0x5F), (0x61, 0x7A)]⟩

/-- The characters of a class with a letter; these classes are closed under case. -/
def Flags.shorthand (f : Flags) (s : Shorthand) : Checked CharSet :=
  let chars := s.kind.chars f.unicode
  let chars := if s.negated then chars.complement else chars
  if !f.unicode && !chars.isAscii then .error (s.span, .invalidUtf8) else .ok chars

/-- The characters that a property query asks for, without its negation. -/
def PropertyQuery.chars : PropertyQuery → Except Fault CharSet
  | .name text =>
    let name := Unicode.looseName text
    let binary :=
      if name == "cf" || name == "sc" || name == "lc" then none else Unicode.binaryProperty? name
    match (binary.or (Unicode.categoryOf? name)).or (Unicode.scriptOf? name) with
    | some s => .ok s
    | none => .error .propertyNotFound
  | .value _ property text =>
    let name := Unicode.looseName text
    match Unicode.looseName property with
    | "gc" | "generalcategory" =>
      match Unicode.categoryOf? name with
      | some s => .ok s
      | none => .error .propertyValueNotFound
    | "sc" | "script" | "scx" | "scriptextensions" =>
      match Unicode.scriptOf? name with
      | some s => .ok s
      | none => .error .propertyValueNotFound
    | other =>
      if (Unicode.binaryProperty? other).isSome then .error .propertyValueNotFound
      else .error .propertyNotFound

/-- Whether a query asks for the characters with another value. -/
def PropertyQuery.differs : PropertyQuery → Bool
  | .name _ => false
  | .value differs _ _ => differs

/-- The characters of a property. -/
def Flags.property (f : Flags) (p : Property) : Checked CharSet :=
  if !f.unicode then .error (p.span, .unicodeNotAllowed)
  else match p.query.chars with
    | .error fault => .error (p.span, fault)
    | .ok s => f.classOf p.span (p.negated != p.query.differs) s

mutual

/-- The characters of what a bracketed class holds. -/
def ClassSet.chars (f : Flags) : ClassSet → Checked CharSet
  | .empty _ => .ok .empty
  | .literal l => do return .single (← f.classChar l)
  | .range _ first last => do
    let low ← f.classChar first
    let high ← f.classChar last
    return .ofRanges [(low.toNat, high.toNat)]
  | .ascii span ranges negated => f.classOf span negated (.ofRanges ranges)
  | .property p => f.property p
  | .shorthand s => f.shorthand s
  | .bracketed span negated body => do f.classOf span negated (← body.chars f)
  | .union _ items => ClassSet.unionChars f .empty items
  | .binary _ operator left right => do
    let left := f.closeUnderCase (← left.chars f)
    let right := f.closeUnderCase (← right.chars f)
    return match operator with
      | .intersection => left.intersection right
      | .difference => left.difference right
      | .symmetricDifference => left.symmetricDifference right

/-- The characters of any of several class sets, joined to a set. -/
def ClassSet.unionChars (f : Flags) (set : CharSet) : List ClassSet → Checked CharSet
  | [] => .ok set
  | s :: rest => do ClassSet.unionChars f (set.union (← s.chars f)) rest

end

/-- The condition of an assertion. -/
def Flags.look (f : Flags) : Assertion → Look
  | .startLine => if !f.multiLine then .start else if f.crlf then .startLineCrlf else .startLine
  | .endLine => if !f.multiLine then .stop else if f.crlf then .stopLineCrlf else .stopLine
  | .startText => .start
  | .endText => .stop
  | .wordBoundary => .boundary f.unicode
  | .notWordBoundary => .notBoundary f.unicode
  | .wordStart => .wordStart f.unicode
  | .wordEnd => .wordEnd f.unicode
  | .wordStartHalf => .wordStartHalf f.unicode
  | .wordEndHalf => .wordEndHalf f.unicode

/-- The characters that a dot stands for. -/
def Flags.dot (f : Flags) : CharSet :=
  if f.dotMatchesNewLine then .full
  else if f.crlf then (CharSet.ofRanges [(10, 10), (13, 13)]).complement
  else (CharSet.single '\n').complement

/-- The characters that a literal stands for. -/
def Flags.literal (f : Flags) (l : Literal) : Checked CharSet := do
  let c ← f.char l
  return f.closeUnderCase (.single c)

mutual

/-- The expression of a tree, and the flags behind it. A change of flags lasts to the end of the group
around it, over the bars of an alternation too. -/
def Tree.expression (f : Flags) : Tree → Checked (Expression × Flags)
  | .empty _ => .ok (.empty, f)
  | .flags _ settings => .ok (.empty, f.apply settings)
  | .literal l => do return (.one (← f.literal l), f)
  | .dot span => if f.unicode then .ok (.one f.dot, f) else .error (span, .invalidUtf8)
  | .assertion _ kind => .ok (.look (f.look kind), f)
  | .property p => do return (.one (← f.property p), f)
  | .shorthand s => do return (.one (← f.shorthand s), f)
  | .bracketed span negated body => do
    return (.one (← f.classOf span negated (← body.chars f)), f)
  | .repetition _ least most body => do
    let (e, f) ← body.expression f
    return (.repetition least most e, f)
  | .group _ settings body => do
    let (e, _) ← body.expression (f.apply settings)
    return (e, f)
  | .alternation _ branches => do
    let (es, f) ← Tree.expressions f branches
    return (.either es, f)
  | .concat _ parts => do
    let (es, f) ← Tree.expressions f parts
    return (.concat es, f)

/-- The expressions of several trees, one behind the other. -/
def Tree.expressions (f : Flags) : List Tree → Checked (List Expression × Flags)
  | [] => .ok ([], f)
  | t :: rest => do
    let (e, f) ← t.expression f
    let (es, f) ← Tree.expressions f rest
    return (e :: es, f)

end

end Rulebook.Pattern
