import Rulebook.Challenge.MainRules
import Rulebook.Challenge.Record

/-!
# The walk over a subject

At every node a subject meets the main rules of a ruleset; if it fails them, a fallback may rescue it.
Then its children meet the table, and if the table turns them down, the list. The walk is one recursion on
the ruleset: what a ruleset inside says about a subject is a walk, and the steps below put such walks
together.

Items are counted in machine words. A list that allows the greatest number of them is the one place where a
sum may exceed a word, and where builds differ: an optimized build lets the sum wrap around, one that checks
its sums stops. The walk is the one of an optimized build, unless a build is named.
-/

namespace Rulebook

open Json (Value)

/-- The greatest machine word. -/
def maxWord : Nat := 0xFFFFFFFFFFFFFFFF

/-- What a build of the program does when a sum exceeds the greatest machine word. -/
inductive Build where
  /-- The sum wraps around. -/
  | wrapping
  /-- The program stops. No error of a challenge says so: the mark only tells that it has stopped, and any
  error may serve as one. -/
  | checking (mark : ChallengeError)

/-- What a ruleset inside says about a subject at a place. -/
abbrev Visit := Value → Location → Walk Bool

/-- Items with their ordinal keys, counted from a number on. -/
def itemsFrom : Nat → List Value → List (String × Value)
  | _, [] => []
  | n, v :: rest => (toString n, v) :: itemsFrom (n + 1) rest

/-- The children of a subject in their natural order. -/
def children : Value → List (String × Value)
  | .object members => members
  | .array items => itemsFrom 0 items
  | _ => []

/-- Whether the values of a fallback rescue a subject. -/
def rescuedByValue (p : Provider) (subject : Value) : Option (List Value) → Bool
  | some values => !subject.isNull && p.isMember subject values
  | none => false

/-- Whether the rules of a fallback rescue a subject. What they complain about is not recorded. -/
def rescuedByRules : Option (Walk Bool) → Walk Bool
  | some w => w.unrecorded
  | none => pure false

/-- The fallbacks of a ruleset. -/
def Ruleset.fallbacks (r : Ruleset) : List Fallback :=
  (if r.alternativeEnum.isSome then [.values] else [])
    ++ (if r.alternativeRuleSet.isSome then [.rules] else [])

section Steps

variable (p : Provider) (mode : RecordMode) (subject : Value) (place : Location)

/-- A child of a subject meets a table: it has to be admitted, and to pass what is declared for its key. -/
def visitMember (kind : ContainerKind) (membership : Membership)
    (declared : String → Option Visit) (child : String × Value) : Walk Bool :=
  match declared child.1 with
  | some visit => visit child.2 (place.child kind child.1)
  | none =>
    if membership.admits child.1 then pure true
    else .fail mode place subject (.undeclaredKey child.1 membership.name)

/-- The declared keys that a subject lacks and must not lack. -/
def missingKeys (elements : List (String × Ruleset)) : List String :=
  (elements.filter fun e =>
    !(Association.keys (children subject)).contains e.1 && !e.2.optional).map Prod.fst

/-- The children of a subject meet a table. -/
def visitTable (membership : Membership) (elements : List (String × Ruleset))
    (declared : String → Option Visit) (kind : ContainerKind) : Walk Bool :=
  .both mode
    (.every mode (visitMember mode subject place kind membership declared) (children subject))
    (.every mode (fun key => .fail mode place subject (.missingKey key))
      (missingKeys subject elements))

/-- The items of a subject meet a list, the first of them with so many items in front of it. An item is one
too many if its number, counted from one, is one more than the list allows. As sums that wrap around are
equal exactly if what one is added to is equal, one is added to neither side; that counting in words comes
to the same is `visitItemsIn_eq_count`. -/
def visitItemsFrom (most : Option Nat) (visit : Visit) (kind : ContainerKind) :
    Nat → List (String × Value) → Walk Bool
  | _, [] => pure true
  | seen, child :: rest =>
    .both mode
      (match most with
        | some most =>
          if seen = most then .fail mode place subject (.tooMany most) else pure true
        | none => pure true)
      (.both mode (visit child.2 (place.child kind child.1))
        (visitItemsFrom most visit kind (seen + 1) rest))

/-- The items of a subject meet a list. -/
def visitItems (least : Nat) (most : Option Nat) (visit : Visit) (kind : ContainerKind) :
    Walk Bool :=
  .both mode
    (visitItemsFrom mode subject place most visit kind 0 (children subject))
    (if (children subject).length < least then
      .fail mode place subject (.tooFew least (children subject).length)
    else pure true)

/-- What stops a build that is to walk items: to the most that a list allows one is added as soon as there is
an item. -/
def Build.stop? : Build → Option Nat → List (String × Value) → Option ChallengeError
  | .checking mark, some most, _ :: _ => if most = maxWord then some mark else none
  | _, _, _ => none

/-- The items of a subject meet a list in a build. -/
def visitItemsIn (b : Build) (least : Nat) (most : Option Nat) (visit : Visit)
    (kind : ContainerKind) : Walk Bool :=
  match b.stop? most (children subject) with
  | some mark => throw mark
  | none => visitItems mode subject place least most visit kind

/-- The children of a subject meet the table and the list that a ruleset declares. -/
def visitChildren (told : Option ContainerKind)
    (table items : Option (ContainerKind → Walk Bool)) : Walk Bool :=
  if table.isNone && items.isNone then pure true
  else
    match told <|> p.containerKind subject with
    | none => .fail mode place subject .notLoopable
    | some kind =>
      match table, items with
      | some t, some l => (t kind).orElse (l kind)
      | some t, none => t kind
      | none, some l => l kind
      | none, none => pure true

/-- A subject meets a ruleset, given the walks of the rulesets inside. -/
def visitNode (r : Ruleset) (alternative : Option (Walk Bool))
    (table items : Option (ContainerKind → Walk Bool)) : Walk Bool :=
  if maxDepth < place.depth then throw (.recursionLimit place)
  else do
    match ← Walk.ofProvider (p.mainVerdict r subject) with
    | .settled => pure true
    | .passed told => visitChildren p mode subject place told table items
    | .failed shortfall =>
      if rescuedByValue p subject r.alternativeEnum then pure true
      else if ← rescuedByRules alternative then
        if subject.isNull then pure true
        else visitChildren p mode subject place none table items
      else .fail mode place subject (shortfall.failure r.fallbacks)

end Steps

mutual

/-- A subject at a place meets a ruleset in a build. -/
def Ruleset.visitIn (b : Build) (p : Provider) (mode : RecordMode) (r : Ruleset) (subject : Value)
    (place : Location) : Walk Bool :=
  match r with
  | ⟨types, patterns, optional, nullable, emptiness, enum, alternative, table, items⟩ =>
    visitNode p mode subject place
      ⟨types, patterns, optional, nullable, emptiness, enum, alternative, table, items⟩
      (match alternative with
        | some a => some (a.visitIn b p mode subject place)
        | none => none)
      (match table with
        | some ⟨elements, membership⟩ =>
          some (visitTable mode subject place membership elements
            (Ruleset.visitForIn b p mode elements))
        | none => none)
      (match items with
        | some ⟨least, most, rules⟩ =>
          some (visitItemsIn mode subject place b least most (rules.visitIn b p mode))
        | none => none)

/-- What is declared for a key, as a walk in a build. -/
def Ruleset.visitForIn (b : Build) (p : Provider) (mode : RecordMode)
    (elements : List (String × Ruleset)) (key : String) : Option Visit :=
  match elements with
  | [] => none
  | (k, r) :: rest =>
    if k = key then some (r.visitIn b p mode) else Ruleset.visitForIn b p mode rest key

end

/-- A subject at a place meets a ruleset. -/
def Ruleset.visit (p : Provider) (mode : RecordMode) (r : Ruleset) (subject : Value)
    (place : Location) : Walk Bool :=
  r.visitIn .wrapping p mode subject place

end Rulebook
