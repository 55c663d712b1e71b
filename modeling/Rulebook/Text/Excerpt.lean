/-!
# Excerpts for reports

Text of a subject or of a definition enters a report as an excerpt: its first code points, with the
characters that a terminal would act on written as escapes.
-/

namespace Rulebook.Text

/-- An excerpt shows this many code points. -/
def excerptLength : Nat := 40

/-- Control characters are the code points below `U+0020` and from `U+007F` to `U+009F`. -/
def isControl (c : Char) : Bool :=
  c.toNat < 0x20 || (0x7F ≤ c.toNat && c.toNat ≤ 0x9F)

/-- Zero-width marks and bidirectional controls, which change how the text around them is shown. -/
def isDirectional (c : Char) : Bool :=
  (0x200B ≤ c.toNat && c.toNat ≤ 0x200F) || (0x202A ≤ c.toNat && c.toNat ≤ 0x202E)
    || (0x2066 ≤ c.toNat && c.toNat ≤ 0x2069)

/-- Whether a character may not reach a terminal as it is. -/
def isUnprintable (c : Char) : Bool := isControl c || isDirectional c

/-- The code point of a character in hexadecimal. -/
def hexText (c : Char) : List Char := Nat.toDigits 16 c.toNat

/-- The escape of a character: a short one for tab, line breaks and NUL, else its code point. -/
def escapeText (c : Char) : List Char :=
  match c with
  | '\x00' => ['\\', '0']
  | '\t' => ['\\', 't']
  | '\r' => ['\\', 'r']
  | '\n' => ['\\', 'n']
  | c => '\\' :: 'u' :: '\x7b' :: (hexText c ++ ['\x7d'])

/-- A character as an excerpt shows it. -/
def shown (c : Char) : List Char := if isUnprintable c then escapeText c else [c]

/-- The excerpt of a text; an ellipsis follows a text that is longer. -/
def excerptChars (s : List Char) : List Char :=
  (s.take excerptLength).flatMap shown
    ++ (if (s.drop excerptLength).isEmpty then [] else ['…'])

/-- The excerpt of a text. -/
def excerpt (s : String) : String := String.ofList (excerptChars s.toList)

end Rulebook.Text
