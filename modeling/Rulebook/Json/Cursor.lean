/-!
# A position in a byte sequence

A cursor splits the input into what has been read and what is left. Lines count from one. The column
is the number of bytes read on the current line, so that it is zero at the start of a line.
-/

namespace Rulebook.Json

/-- A place in the input. -/
structure Cursor where
  /-- The bytes that have been read, the latest first. -/
  seen : List UInt8
  /-- The bytes that are left. -/
  rest : List UInt8
  deriving Repr

/-- A line and a column. -/
structure Position where
  line : Nat
  column : Nat
  deriving DecidableEq, Repr

/-- The byte that ends a line. -/
def lineFeed : UInt8 := 10

namespace Cursor

/-- The start of an input. -/
def start (bytes : List UInt8) : Cursor := ⟨[], bytes⟩

/-- The byte under the cursor, as a character of the same number. -/
def peek? (c : Cursor) : Option Char := c.rest.head?.map fun b => Char.ofNat b.toNat

/-- The cursor one byte further, or where it is at the end of the input. -/
def next (c : Cursor) : Cursor :=
  match c.rest with
  | [] => c
  | b :: rest => ⟨b :: c.seen, rest⟩

/-- The cursor some bytes further. -/
def advance (c : Cursor) : Nat → Cursor
  | 0 => c
  | n + 1 => c.next.advance n

/-- The position behind the bytes that have been read. -/
def position (c : Cursor) : Position :=
  { line := 1 + c.seen.count lineFeed
    column := (c.seen.takeWhile (· != lineFeed)).length }

/-- The position of the byte under the cursor, counted as if it had been read. -/
def peekPosition (c : Cursor) : Position := c.next.position

end Cursor

end Rulebook.Json
