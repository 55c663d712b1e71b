import Rulebook.Json.Value
import Rulebook.Text.Ascii
import Rulebook.Text.Excerpt
import Rulebook.Unicode.Blank

/-!
# Rules for texts

Character classes, identifiers, encodings and the shapes of addresses on the net. Every test looks at
the characters of a text; subjects that are not texts fail.
-/

namespace Rulebook.Standard

open Json (Value)
open Text (isAsciiChar isAsciiControl isLowerLetter isLetter isDigit isLetterOrDigit isHexDigit)

/-- Tests the characters of a subject that is a text. -/
def onText (test : List Char → Bool) : Value → Bool
  | .string s => test s.toList
  | _ => false

/-! ## Character classes -/

/-- The control characters that a text of several lines may hold. -/
def isLineControl (c : Char) : Bool := c == '\n' || c == '\r' || c == '\t'

/-- Text without control characters. -/
def isPrintable (s : List Char) : Bool := !s.any Text.isControl

/-- Text whose only control characters are tabs and line breaks. -/
def isMultiLine (s : List Char) : Bool := s.all fun c => !Text.isControl c || isLineControl c

/-- Text of ASCII characters. -/
def isAscii (s : List Char) : Bool := s.all isAsciiChar

/-- Text of ASCII characters without control characters. -/
def isAsciiPrintable (s : List Char) : Bool := s.all fun c => isAsciiChar c && !isAsciiControl c

/-- Text of ASCII characters whose only control characters are tabs and line breaks. -/
def isAsciiMultiLine (s : List Char) : Bool :=
  s.all fun c => isAsciiChar c && (!isAsciiControl c || isLineControl c)

/-- Text of several lines without angle brackets. -/
def isPlain (s : List Char) : Bool :=
  s.all fun c => (!Text.isControl c || isLineControl c) && c != '<' && c != '>'

/-- Whether a text has a character and all its characters are of a class. -/
def someOf (cls : Char → Bool) (s : List Char) : Bool := !s.isEmpty && s.all cls

/-- Whether a text begins with a character of one class and goes on with those of another. -/
def beginsAndGoesOn (first later : Char → Bool) : List Char → Bool
  | [] => false
  | c :: rest => first c && rest.all later

/-- Hexadecimal digits, at least one. -/
def isHex (s : List Char) : Bool := someOf isHexDigit s

/-- Letters and digits, at least one. -/
def isAlphaNum (s : List Char) : Bool := someOf isLetterOrDigit s

/-! ## Identifiers -/

/-- A letter or an underscore, then letters, digits and underscores. -/
def isName (s : List Char) : Bool :=
  beginsAndGoesOn (fun c => isLetter c || c == '_') (fun c => isLetterOrDigit c || c == '_') s

/-- A lower-case letter, then letters and digits. -/
def isCamelName (s : List Char) : Bool := beginsAndGoesOn isLowerLetter isLetterOrDigit s

/-- A lower-case letter, then lower-case letters, digits and underscores. -/
def isSnakeName (s : List Char) : Bool :=
  beginsAndGoesOn isLowerLetter (fun c => isLowerLetter c || isDigit c || c == '_') s

/-- A lower-case letter, then lower-case letters, digits and hyphens. -/
def isLispName (s : List Char) : Bool :=
  beginsAndGoesOn isLowerLetter (fun c => isLowerLetter c || isDigit c || c == '-') s

/-- The parts of a text between the occurrences of a separator. -/
def splitOn (separator : Char) : List Char → List (List Char)
  | [] => [[]]
  | c :: rest =>
    match splitOn separator rest with
    | [] => [[c]]
    | part :: parts => if c = separator then [] :: part :: parts else (c :: part) :: parts

/-- Hexadecimal digits in groups of 8, 4, 4, 4 and 12, with hyphens between them. -/
def isUuid (s : List Char) : Bool :=
  let groups := splitOn '-' s
  groups.map List.length == [8, 4, 4, 4, 12] && groups.all fun g => g.all isHexDigit

/-- The characters that carry data in base64. -/
def isBase64Char (c : Char) : Bool := isLetterOrDigit c || c == '+' || c == '/'

/-- Characters of base64, at least one, and at most two signs of padding; four characters make a
group. -/
def isBase64 (s : List Char) : Bool :=
  let data := s.takeWhile isBase64Char
  let padding := s.drop data.length
  s.length % 4 == 0 && !data.isEmpty && padding.length ≤ 2 && padding.all (· == '=')

/-! ## Addresses on the net -/

/-- A character that may begin the authority of an address. -/
def beginsAuthority (c : Char) : Bool :=
  !Unicode.isBlank c && c != '/' && c != '?' && c != '#'

/-- What follows the scheme of an address: two slashes, and a text without blanks that begins with an
authority. -/
def isAfterScheme : List Char → Bool
  | ':' :: '/' :: '/' :: rest => beginsAndGoesOn beginsAuthority (fun c => !Unicode.isBlank c) rest
  | _ => false

/-- A character of a scheme behind its first letter. -/
def isSchemeChar (c : Char) : Bool := isLetterOrDigit c || c == '+' || c == '.' || c == '-'

/-- A scheme, a colon, two slashes, and an authority with whatever follows it. -/
def isUrl (s : List Char) : Bool :=
  let scheme := s.takeWhile isSchemeChar
  beginsAndGoesOn isLetter isSchemeChar scheme && isAfterScheme (s.drop scheme.length)

/-- An address whose scheme is `http` or `https`, in any case. -/
def isHttpUrl (s : List Char) : Bool :=
  let scheme := s.takeWhile isSchemeChar
  let name := scheme.map Char.toLower
  (name == ['h', 't', 't', 'p'] || name == ['h', 't', 't', 'p', 's'])
    && isAfterScheme (s.drop scheme.length)

/-- A name, an at sign, and two or more labels with dots between them; there are no blanks and no
further at sign. -/
def isEmail (s : List Char) : Bool :=
  let name := s.takeWhile (· != '@')
  let labels := splitOn '.' ((s.drop name.length).drop 1)
  (s.drop name.length).head? == some '@'
    && someOf (fun c => !Unicode.isBlank c) name
    && 2 ≤ labels.length
    && labels.all (someOf fun c => c != '@' && !Unicode.isBlank c)

end Rulebook.Standard
