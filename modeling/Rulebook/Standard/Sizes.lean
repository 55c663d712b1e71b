import Rulebook.Standard.Arguments
import Rulebook.Text.Utf8

/-!
# Rules for sizes

The number of items or members of a container, and the length of a text, which is counted in bytes of
its UTF-8 form or in code points.
-/

namespace Rulebook.Standard

open Json (Value)

/-- The number of entries of a container. -/
def size? : Value → Option Nat
  | .array items => some items.length
  | .object members => some members.length
  | _ => none

/-- The number of bytes of a subject that is a text. -/
def byteLength? : Value → Option Nat
  | .string s => some (Utf8.byteCount s.toList)
  | _ => none

/-- The number of code points of a subject that is a text. -/
def codePoints? : Value → Option Nat
  | .string s => some s.toList.length
  | _ => none

/-- A rule that measures its subject and compares the measure with its argument. A subject that cannot
be measured fails. -/
def measured (rule : String) (measure : Value → Option Nat) (relation : Nat → Nat → Bool)
    (v : Value) (args : List Value) : Answer Bool := do
  let n ← countArgument rule args 0
  return (measure v).any fun m => relation m n

/-- The relation of a lower bound. -/
def atLeast (m n : Nat) : Bool := n ≤ m

/-- The relation of an upper bound. -/
def atMost (m n : Nat) : Bool := m ≤ n

/-- The relation of an exact measure. -/
def exactly (m n : Nat) : Bool := m == n

end Rulebook.Standard
