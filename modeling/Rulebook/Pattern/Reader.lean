import Rulebook.Pattern.Class

/-!
# Reading patterns

The reader goes once over a pattern, with a stack of the groups and alternations that are open.
-/

namespace Rulebook.Pattern

/-- The parts of a sequence read so far, latest first, and the place where it starts. -/
structure Sequence where
  start : Place
  parts : List Tree

/-- A sequence that ends at a place, as a tree. -/
def Sequence.toTree (s : Sequence) (stop : Place) : Tree :=
  match s.parts with
  | [] => .empty ⟨s.start, stop⟩
  | [t] => t
  | many => .concat ⟨s.start, stop⟩ many.reverse

/-- The sequence with one more part. -/
def Sequence.push (s : Sequence) (t : Tree) : Sequence := { s with parts := t :: s.parts }

/-- What is unfinished while a pattern is read. -/
inductive Frame where
  /-- An open group: the sequence in front of it, its opening parenthesis, the flags inside it and the
  verbose mode outside it. -/
  | group (before : Sequence) (opening : Span) (settings : Settings) (verbose : Bool)
  /-- The branches of an alternation read so far, latest first. -/
  | alternation (start : Place) (branches : List Tree)

/-- An alternation that ends with a branch. -/
def alternationTree (start : Place) (branches : List Tree) (last : Tree) (stop : Place) : Tree :=
  .alternation ⟨start, stop⟩ (last :: branches).reverse

/-- The state that settings give to a flag. -/
def stateOf (flag : Flag) : Settings → Option Bool
  | [] => none
  | (f, value) :: rest => if f = flag then some value else stateOf flag rest

/-- What an opening parenthesis begins. -/
inductive Opening where
  | flags (span : Span) (settings : Settings)
  | group (settings : Settings)

namespace Scan

/-! ## Groups -/

/-- Whether a character may stand in the name of a group. -/
def isNameChar (first : Bool) (c : Char) : Bool :=
  c == '_' || Unicode.alphabetic.contains c
    || (!first && (c == '.' || c == '[' || c == ']'
      || (Unicode.inCategories ["Nd", "Nl", "No"]).contains c))

/-- Reads the name of a group. The fuel is a bound on the characters left. -/
def nameChars : Nat → (first : Bool) → List Char → Scan (List Char)
  | 0, _, chars => return chars.reverse
  | fuel + 1, first, chars => do
    match ← peek with
    | none => return chars.reverse
    | some c =>
      if c = '>' then return chars.reverse
      else if isNameChar first c then
        let _ ← bump
        nameChars fuel false (c :: chars)
      else fail (← charSpan) .groupNameInvalid

/-- Reads the name of a group and its closing angle bracket. No two groups have one name. -/
def groupName : Scan Unit := do
  if ← atEnd then fail (← emptySpan) .groupNameUnfinished
  let start ← here
  let name ← nameChars ((← get).rest.length + 1) true []
  let stop ← here
  if ← atEnd then fail (← emptySpan) .groupNameUnfinished
  let _ ← bump
  if name.isEmpty then fail ⟨start, start⟩ .groupNameEmpty
  match (← get).names.find? fun entry => entry.1 == name with
  | some (_, first) => fail ⟨start, stop⟩ (.groupNameDuplicate first)
  | none => modify fun s => { s with names := (name, ⟨start, stop⟩) :: s.names }

/-- The flag with a letter. -/
def flag? : Char → Option Flag
  | 'i' => some .caseInsensitive
  | 'm' => some .multiLine
  | 's' => some .dotMatchesNewLine
  | 'U' => some .swapGreed
  | 'u' => some .unicode
  | 'R' => some .crlf
  | 'x' => some .ignoreWhitespace
  | _ => none

/-- The flags read so far, with their spans, latest first; no flag stands for the minus sign. -/
abbrev FlagItems := List (Option Flag × Span)

/-- The span of an earlier item like the given one. -/
def earlier? (item : Option Flag) (items : FlagItems) : Option Span :=
  (items.find? fun entry => entry.1 == item).map Prod.snd

/-- Reads flags up to a colon or a closing parenthesis. The fuel is a bound on the characters left. -/
def flagItems : Nat → FlagItems → Scan FlagItems
  | 0, items => return items
  | fuel + 1, items => do
    match ← peek with
    | none => fail (← emptySpan) .flagUnfinished
    | some c =>
      if c = ':' ∨ c = ')' then
        match items with
        | (none, span) :: _ => fail span .flagDanglingNegation
        | _ => return items
      else
        let span ← charSpan
        let item ←
          if c = '-' then
            match earlier? none items with
            | some first => fail span (.flagRepeatedNegation first)
            | none => pure none
          else match flag? c with
            | none => fail span .flagUnrecognized
            | some flag =>
              match earlier? (some flag) items with
              | some first => fail span (.flagDuplicate first)
              | none => pure (some flag)
        if ← bump then flagItems fuel ((item, span) :: items)
        else fail (← emptySpan) .flagUnfinished

/-- The settings of flags in the order in which they were written: those behind the minus sign are
cleared. -/
def settingsFrom (value : Bool) : FlagItems → Settings
  | [] => []
  | (none, _) :: rest => settingsFrom false rest
  | (some flag, _) :: rest => (flag, value) :: settingsFrom value rest

/-- Whether a look-around begins here. -/
def lookAround : Scan Bool := do
  if ← bumpIf ['?', '='] then return true
  if ← bumpIf ['?', '!'] then return true
  if ← bumpIf ['?', '<', '='] then return true
  bumpIf ['?', '<', '!']

/-- Reads what an opening parenthesis begins, up to the contents of the group. -/
def opening : Scan (Span × Opening) := do
  let paren ← charSpan
  let _ ← bump
  bumpSpace
  if ← lookAround then fail (← spanFrom paren.start) .lookAround
  let inner ← emptySpan
  let isNamed ← do
    if ← bumpIf ['?', 'P', '<'] then pure true else bumpIf ['?', '<']
  if isNamed then
    groupName
    return (paren, .group [])
  else if ← bumpIf ['?'] then
    if ← atEnd then fail paren .groupUnclosed
    let items ← flagItems ((← get).rest.length + 1) []
    let settings := settingsFrom true items.reverse
    let last ← peek
    let _ ← bump
    if last == some ')' then
      if items.isEmpty then fail inner .repetitionMissing
      return (paren, .flags (← spanFrom paren.start) settings)
    else return (paren, .group settings)
  else return (paren, .group [])

/-! ## Repetitions -/

/-- Takes the last part off a sequence, which a repetition operator applies to. -/
def operand (s : Sequence) : Scan (Tree × Sequence) := do
  match s.parts with
  | [] | .empty _ :: _ | .flags _ _ :: _ => fail (← emptySpan) .repetitionMissing
  | t :: rest => return (t, { s with parts := rest })

/-- Takes the question mark that makes a repetition lazy. Laziness does not change whether a text
matches. -/
def lazyMark (more : Bool) : Scan Unit := do
  if more && (← peek) == some '?' then
    let _ ← bump

/-- Reads a repetition operator of one character. -/
def simpleRepetition (s : Sequence) (least : Nat) (most : Option Nat) : Scan Sequence := do
  let (t, s) ← operand s
  lazyMark (← bump)
  return s.push (.repetition ⟨t.span.start, ← here⟩ least most t)

/-- Takes the digits of a number. The fuel is a bound on the characters left. -/
def decimalDigits : Nat → List Char → Scan (List Char)
  | 0, digits => return digits.reverse
  | fuel + 1, digits => do
    match ← peek with
    | some c =>
      if c.isDigit then
        let _ ← bumpAndSpace
        decimalDigits fuel (c :: digits)
      else return digits.reverse
    | none => return digits.reverse

/-- Takes blanks, with what else may be passed over. The fuel is a bound on the characters left. -/
def trailingBlanks : Nat → Scan Unit
  | 0 => return ()
  | fuel + 1 => do
    match ← peek with
    | some c =>
      if Unicode.isBlank c then
        let _ ← bumpAndSpace
        trailingBlanks fuel
    | none => return ()

/-- Reads a number below `2^32`, or gives the fault and where it is. -/
def decimal : Scan (Except (Span × Fault) Nat) := do
  skipBlanks
  let start ← here
  let bound := (← get).rest.length + 1
  let digits ← decimalDigits bound []
  let span ← spanFrom start
  trailingBlanks bound
  if digits.isEmpty then return .error (span, .countEmpty)
  let n : Nat := digits.foldl (fun n c => 10 * n + (c.toNat - 48)) 0
  if 0x100000000 ≤ n then return .error (span, .decimalInvalid)
  return .ok n

/-- The number that was read, or its fault. -/
def settled : Except (Span × Fault) Nat → Scan Nat
  | .ok n => return n
  | .error (span, fault) => fail span fault

/-- Reads a repetition with counts at its opening brace. The lower count may be left out. -/
def countedRepetition (s : Sequence) : Scan Sequence := do
  let start ← here
  let (t, s) ← operand s
  if !(← bumpAndSpace) then fail (← spanFrom start) .countUnclosed
  let low ← decimal
  if ← atEnd then fail (← spanFrom start) .countUnclosed
  let (least, most) ←
    if (← peek) == some ',' then do
      if !(← bumpAndSpace) then fail (← spanFrom start) .countUnclosed
      if (← peek) != some '\x7d' then
        let low ← settled low
        let high ← settled (← decimal)
        pure (low, some high)
      else pure (← settled low, none)
    else do
      let low ← settled low
      pure (low, some low)
  if (← peek) != some '\x7d' then fail (← spanFrom start) .countUnclosed
  lazyMark (← bumpAndSpace)
  if most.any (· < least) then fail (← spanFrom start) .countRangeInvalid
  return s.push (.repetition ⟨t.span.start, ← here⟩ least most t)

/-! ## The pattern -/

/-- Reads a part that begins with no operator. -/
def atom (c : Char) : Scan Tree := do
  if c = '\\' then Atom.toTree <$> escape
  else
    let span ← charSpan
    let _ ← bump
    match c with
    | '.' => return .dot span
    | '^' => return .assertion span .startLine
    | '$' => return .assertion span .endLine
    | _ => return .literal ⟨span, c, false⟩

/-- Ends a branch: it joins the open alternation or begins one. -/
def endBranch (s : Sequence) (stop : Place) : List Frame → List Frame
  | .alternation start branches :: rest =>
    .alternation start (s.toTree stop :: branches) :: rest
  | frames => .alternation s.start [s.toTree stop] :: frames

/-- The contents of the innermost open group, and the frames around them. -/
def contents (s : Sequence) (stop : Place) : List Frame → Tree × List Frame
  | .alternation start branches :: rest =>
    (alternationTree start branches (s.toTree stop) stop, rest)
  | frames => (s.toTree stop, frames)

/-- The whole pattern, when its text has ended. -/
def finish (s : Sequence) (frames : List Frame) : Scan Tree := do
  match contents s (← here) frames with
  | (t, []) => return t
  | (_, .group _ opening _ _ :: _) => fail opening .groupUnclosed
  | (t, .alternation _ _ :: _) => return t

/-- Reads a pattern from some point on, with its open frames, innermost first. The fuel is a bound on
the characters left. -/
def treeFrom : Nat → List Frame → Sequence → Scan Tree
  | 0, frames, s => finish s frames
  | fuel + 1, frames, s => do
    bumpSpace
    match ← peek with
    | none => finish s frames
    | some '(' =>
      match ← opening with
      | (_, .flags span settings) =>
        modify fun st =>
          { st with verbose := (stateOf .ignoreWhitespace settings).getD st.verbose }
        treeFrom fuel frames (s.push (.flags span settings))
      | (paren, .group settings) =>
        let verbose := (← get).verbose
        modify fun st =>
          { st with verbose := (stateOf .ignoreWhitespace settings).getD st.verbose }
        treeFrom fuel (.group s paren settings verbose :: frames) ⟨← here, []⟩
    | some ')' =>
      let stop ← here
      match contents s stop frames with
      | (body, .group before paren settings verbose :: rest) =>
        modify fun st => { st with verbose := verbose }
        let _ ← bump
        treeFrom fuel rest (before.push (.group ⟨paren.start, ← here⟩ settings body))
      | _ => fail (← charSpan) .groupUnopened
    | some '|' =>
      let frames := endBranch s (← here) frames
      let _ ← bump
      treeFrom fuel frames ⟨← here, []⟩
    | some '[' => treeFrom fuel frames (s.push (← bracketed))
    | some '?' => treeFrom fuel frames (← simpleRepetition s 0 (some 1))
    | some '*' => treeFrom fuel frames (← simpleRepetition s 0 none)
    | some '+' => treeFrom fuel frames (← simpleRepetition s 1 none)
    | some '\x7b' => treeFrom fuel frames (← countedRepetition s)
    | some c => treeFrom fuel frames (s.push (← atom c))

end Scan

/-- Reads a pattern. -/
def Tree.ofChars (pattern : List Char) : Except (Span × Fault) Tree := do
  let start : Place := ⟨1, 1⟩
  let (tree, _) ←
    (Scan.treeFrom (pattern.length + 1) [] ⟨start, []⟩).run ⟨pattern, start, false, []⟩
  match tree.tooDeep? 0 with
  | some span => throw (span, .nestedTooDeep nestLimit)
  | none => return tree

end Rulebook.Pattern
