import Rulebook.Text.Ascii

/-!
# Addresses of hosts

The textual forms of IPv4 and IPv6 addresses. Every reader takes what it reads off the front of a text
and gives the rest.
-/

namespace Rulebook.Standard

open Text (isDigit isHexDigit digitsValue readChar)

/-- One part of an IPv4 address: at most three digits without a leading zero, below 256. -/
def readOctet (s : List Char) : Option (List Char) :=
  let digits := s.takeWhile isDigit
  if digits.isEmpty || 3 < digits.length || (digits.head? == some '0' && 1 < digits.length)
    || 255 < digitsValue 10 digits then none
  else some (s.drop digits.length)

/-- One part of an IPv6 address: at most four hexadecimal digits. -/
def readGroup (s : List Char) : Option (List Char) :=
  let digits := s.takeWhile isHexDigit
  if digits.isEmpty || 4 < digits.length then none else some (s.drop digits.length)

/-- An IPv4 address. -/
def readIpv4 (s : List Char) : Option (List Char) := do
  let s ← readChar '.' (← readOctet s)
  let s ← readChar '.' (← readOctet s)
  let s ← readChar '.' (← readOctet s)
  readOctet s

/-- Takes the separator in front of all groups but the first one. -/
def readSeparator (index : Nat) (s : List Char) : Option (List Char) :=
  if index = 0 then some s else readChar ':' s

/-- Groups of an IPv6 address while there is room for so many more: the number of groups, whether the
last two of them were written as an IPv4 address, and the rest. -/
def readGroups (index : Nat) : (room : Nat) → List Char → Nat × Bool × List Char
  | 0, s => (index, false, s)
  | room + 1, s =>
    let embedded := if room = 0 then none else (readSeparator index s).bind readIpv4
    match embedded with
    | some rest => (index + 2, true, rest)
    | none =>
      match (readSeparator index s).bind readGroup with
      | some rest => readGroups (index + 1) room rest
      | none => (index, false, s)

/-- An IPv6 address: eight groups, or fewer with a double colon for those left out, of which there is
at least one. -/
def readIpv6 (s : List Char) : Option (List Char) := do
  let (count, hasIpv4, rest) := readGroups 0 8 s
  if count = 8 then return rest
  else if hasIpv4 then none
  else
    let rest ← readChar ':' (← readChar ':' rest)
    let (_, _, rest) := readGroups 0 (7 - count) rest
    return rest

/-- Whether a text is the address of a host. -/
def isIpAddress (s : List Char) : Bool :=
  match (readIpv4 s).or (readIpv6 s) with
  | some rest => rest.isEmpty
  | none => false

end Rulebook.Standard
