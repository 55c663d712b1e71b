/-!
# Classes of ASCII characters

Letters, digits and control characters of ASCII, and the readers that take such characters off the front
of a text.
-/

namespace Rulebook.Text

/-- Whether a character is an ASCII character. -/
def isAsciiChar (c : Char) : Bool := c.toNat < 128

/-- Whether a character is an ASCII control character. -/
def isAsciiControl (c : Char) : Bool := c.toNat < 32 || c.toNat == 127

/-- The letters from `a` to `z`. -/
def isLowerLetter (c : Char) : Bool := 'a' ≤ c && c ≤ 'z'

/-- The letters from `A` to `Z`. -/
def isUpperLetter (c : Char) : Bool := 'A' ≤ c && c ≤ 'Z'

/-- The letters of either case. -/
def isLetter (c : Char) : Bool := isLowerLetter c || isUpperLetter c

/-- The digits from `0` to `9`. -/
def isDigit (c : Char) : Bool := '0' ≤ c && c ≤ '9'

/-- Letters and digits. -/
def isLetterOrDigit (c : Char) : Bool := isLetter c || isDigit c

/-- The digits in base sixteen, in either case. -/
def isHexDigit (c : Char) : Bool :=
  isDigit c || ('a' ≤ c && c ≤ 'f') || ('A' ≤ c && c ≤ 'F')

/-- The value of a digit in base sixteen. -/
def hexDigitValue (c : Char) : Nat :=
  if isDigit c then c.toNat - 48 else if isLowerLetter c then c.toNat - 87 else c.toNat - 55

/-- The number that digits in a base up to sixteen stand for. -/
def digitsValue (base : Nat) (digits : List Char) : Nat :=
  digits.foldl (fun n c => base * n + hexDigitValue c) 0

/-- Takes a character off the front of a text. -/
def readChar (c : Char) : List Char → Option (List Char)
  | [] => none
  | d :: rest => if c = d then some rest else none

end Rulebook.Text
