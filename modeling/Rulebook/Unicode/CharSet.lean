/-!
# Sets of characters

A set of characters is a list of ranges of code points, both ends included, that increase and neither
overlap nor touch. Surrogates may lie in a range; no character has such a code point.
-/

namespace Rulebook.Unicode

/-- A set of characters. -/
structure CharSet where
  /-- The ranges, in increasing order. -/
  ranges : List (Nat × Nat)
  deriving DecidableEq, Repr

namespace CharSet

/-- The greatest code point. -/
def last : Nat := 0x10FFFF

/-- Joins the ranges that overlap or touch, in a list ordered by the first ends; `low` and `high` are
the ends of the range that is being built. -/
def join (low high : Nat) : List (Nat × Nat) → List (Nat × Nat)
  | [] => [(low, high)]
  | (a, b) :: rest =>
    if a ≤ high + 1 then join low (max high b) rest else (low, high) :: join a b rest

/-- The set of the characters in some ranges, in any order. -/
def ofRanges (ranges : List (Nat × Nat)) : CharSet :=
  match ranges.mergeSort fun a b => a.1 ≤ b.1 with
  | [] => ⟨[]⟩
  | (a, b) :: rest => ⟨join a b rest⟩

/-- No character. -/
def empty : CharSet := ⟨[]⟩

/-- Every character. -/
def full : CharSet := ⟨[(0, last)]⟩

/-- One character. -/
def single (c : Char) : CharSet := ⟨[(c.toNat, c.toNat)]⟩

/-- The ranges between the given ones, from a code point on. -/
def gaps (start : Nat) : List (Nat × Nat) → List (Nat × Nat)
  | [] => if start ≤ last then [(start, last)] else []
  | (a, b) :: rest =>
    if start < a then (start, a - 1) :: gaps (b + 1) rest else gaps (b + 1) rest

/-- The characters outside the set. -/
def complement (s : CharSet) : CharSet := ⟨gaps 0 s.ranges⟩

/-- The characters of either set. -/
def union (s t : CharSet) : CharSet := ofRanges (s.ranges ++ t.ranges)

/-- The characters of both sets. -/
def intersection (s t : CharSet) : CharSet := (s.complement.union t.complement).complement

/-- The characters of the first set that are not in the second. -/
def difference (s t : CharSet) : CharSet := s.intersection t.complement

/-- The characters of exactly one of the sets. -/
def symmetricDifference (s t : CharSet) : CharSet :=
  (s.union t).difference (s.intersection t)

/-- Whether a code point lies in one of the ranges, which increase. -/
def holds (n : Nat) : List (Nat × Nat) → Bool
  | [] => false
  | (a, b) :: rest => if n < a then false else if n ≤ b then true else holds n rest

/-- Whether a character belongs to the set. -/
def contains (s : CharSet) (c : Char) : Bool := holds c.toNat s.ranges

/-- Whether every character of the set is an ASCII character. -/
def isAscii (s : CharSet) : Bool := s.ranges.all fun r => r.2 < 128

end CharSet

end Rulebook.Unicode
