import Rulebook.Pattern.Expression

/-!
# Matching machines

An expression becomes a machine with one instruction for each of its characters and choices. Matching
goes once over the text and keeps the set of instructions that the machine may be at, so that its time
is bounded by the product of the two lengths.
-/

namespace Rulebook.Pattern

open Unicode (CharSet)

/-- One step of a machine, with the instructions that may follow. -/
inductive Instruction where
  /-- Takes one character of a set. -/
  | take (set : CharSet) (next : Nat)
  /-- Goes on where a condition holds. -/
  | check (condition : Look) (next : Nat)
  /-- Goes on at either place. -/
  | fork (first second : Nat)
  /-- The text matches. -/
  | accept

/-- A machine: its instructions, and the one it starts at. -/
structure Machine where
  code : Array Instruction
  entry : Nat

/-! ## Assembling -/

/-- Appends an instruction and gives its place. -/
def emit (i : Instruction) : StateM (Array Instruction) Nat := do
  let code ← get
  set (code.push i)
  return code.size

/-- Builds copies of a part, each in front of the one before. -/
def copies (part : Nat → StateM (Array Instruction) Nat) :
    Nat → Nat → StateM (Array Instruction) Nat
  | 0, next => return next
  | n + 1, next => do copies part n (← part next)

/-- Builds copies of a part of which each may be left out with all that follow. -/
def optionalCopies (part : Nat → StateM (Array Instruction) Nat) (stop : Nat) :
    Nat → Nat → StateM (Array Instruction) Nat
  | 0, next => return next
  | n + 1, next => do
    let here ← part next
    optionalCopies part stop n (← emit (.fork here stop))

/-- Builds a part that may be repeated without bound. -/
def loop (part : Nat → StateM (Array Instruction) Nat) (next : Nat) :
    StateM (Array Instruction) Nat := do
  let fork ← emit (.fork next next)
  let body ← part fork
  modify fun code => code.setIfInBounds fork (.fork body next)
  return fork

mutual

/-- Builds the instructions of an expression in front of the place where it goes on, and gives the
place where it starts. -/
def Expression.assemble : Expression → Nat → StateM (Array Instruction) Nat
  | .empty, next => return next
  | .one set, next => emit (.take set next)
  | .look condition, next => emit (.check condition next)
  | .concat parts, next => Expression.assembleAll parts next
  | .either branches, next => Expression.assembleAny branches next
  | .repetition least most body, next => do
    let behind ← match most with
      | some most => optionalCopies body.assemble next (most - least) next
      | none => loop body.assemble next
    copies body.assemble least behind

/-- Builds a sequence. -/
def Expression.assembleAll : List Expression → Nat → StateM (Array Instruction) Nat
  | [], next => return next
  | e :: rest, next => do e.assemble (← Expression.assembleAll rest next)

/-- Builds a choice. A choice between no branches never matches. -/
def Expression.assembleAny : List Expression → Nat → StateM (Array Instruction) Nat
  | [], _ => emit (.take .empty 0)
  | [e], next => e.assemble next
  | e :: rest, next => do
    let others ← Expression.assembleAny rest next
    emit (.fork (← e.assemble next) others)

end

/-- The machine of an expression. -/
def Expression.machine (e : Expression) : Machine :=
  let build : StateM (Array Instruction) Nat := do
    let stop ← emit .accept
    e.assemble stop
  let (entry, code) := build.run #[]
  ⟨code, entry⟩

/-! ## Size -/

/-- A machine may take this many bytes. -/
def sizeLimit : Nat := 10 * Nat.pow 2 20

/-- The bytes that an instruction is counted with. -/
def instructionSize : Nat := 32

mutual

/-- The number of instructions of an expression. -/
def Expression.size : Expression → Nat
  | .empty => 0
  | .one set => 1 + set.ranges.length / 2
  | .look _ => 1
  | .concat parts => Expression.totalSize parts
  | .either branches => Expression.totalSize branches + branches.length
  | .repetition least most body =>
    let one := body.size + 1
    match most with
    | some most => one * max least most
    | none => one * (least + 1)

/-- The number of instructions of several expressions. -/
def Expression.totalSize : List Expression → Nat
  | [] => 0
  | e :: rest => e.size + Expression.totalSize rest

end

/-! ## Matching -/

/-- Whether a character is part of a word. -/
def isWord (unicode : Bool) (c : Option Char) : Bool :=
  c.any (LetterClass.word.chars unicode).contains

/-- Whether a condition holds between two characters; there is none before the start and behind the
end of the text. -/
def Look.holds (before after : Option Char) : Look → Bool
  | .start => before.isNone
  | .stop => after.isNone
  | .startLine => before.all (· == '\n')
  | .stopLine => after.all (· == '\n')
  | .startLineCrlf =>
    before.all (· == '\n') || (before == some '\r' && after != some '\n')
  | .stopLineCrlf =>
    after.all (· == '\r') || (after == some '\n' && before != some '\r')
  | .boundary u => isWord u before != isWord u after
  | .notBoundary u => isWord u before == isWord u after
  | .wordStart u => !isWord u before && isWord u after
  | .wordEnd u => isWord u before && !isWord u after
  | .wordStartHalf u => !isWord u before
  | .wordEndHalf u => !isWord u after

/-- The instructions that can be reached without taking a character: those seen so far and those still
to be followed. The fuel is a bound on the steps: an instruction is followed once. -/
def follow (code : Array Instruction) (before after : Option Char) :
    Nat → List Nat → Array Bool → Array Bool
  | 0, _, seen => seen
  | _, [], seen => seen
  | fuel + 1, i :: rest, seen =>
    if seen.getD i true then follow code before after fuel rest seen
    else
      let seen := seen.setIfInBounds i true
      match code[i]? with
      | some (.fork a b) => follow code before after fuel (a :: b :: rest) seen
      | some (.check condition next) =>
        follow code before after fuel
          (if condition.holds before after then next :: rest else rest) seen
      | _ => follow code before after fuel rest seen

/-- The instructions that the machine may be at, between two characters. -/
def Machine.reach (m : Machine) (before after : Option Char) (starts : List Nat) : Array Bool :=
  follow m.code before after (3 * m.code.size + starts.length + 1) starts
    (Array.replicate m.code.size false)

/-- The instructions behind those that take a character. -/
def Machine.step (m : Machine) (seen : Array Bool) (c : Char) : List Nat :=
  (List.range m.code.size).filterMap fun i =>
    if seen.getD i false then
      match m.code[i]? with
      | some (.take set next) => if set.contains c then some next else none
      | _ => none
    else none

/-- Whether the machine has accepted. -/
def Machine.accepts (m : Machine) (seen : Array Bool) : Bool :=
  (List.range m.code.size).any fun i =>
    seen.getD i false && (match m.code[i]? with
      | some .accept => true
      | _ => false)

/-- Whether the machine accepts somewhere from a place on. A match may start at every place. -/
def Machine.searchFrom (m : Machine) (before : Option Char) (pending : List Nat) :
    List Char → Bool
  | [] => m.accepts (m.reach before none (m.entry :: pending))
  | c :: rest =>
    let seen := m.reach before (some c) (m.entry :: pending)
    m.accepts seen || m.searchFrom (some c) (m.step seen c) rest

/-- Whether some part of a text matches. -/
def Machine.search (m : Machine) (text : List Char) : Bool := m.searchFrom none [] text

end Rulebook.Pattern
