/-!
# UTF-8

Decoding of byte sequences. A sequence that is not UTF-8 is refused at the first byte that does not
begin a character; the fault says how many bytes belong to the refused beginning, or that the input
ended inside a character.
-/

namespace Rulebook.Utf8

/-- Where and how a byte sequence stops being UTF-8. -/
structure Fault where
  /-- The number of bytes in front of the fault. -/
  index : Nat
  /-- The number of bytes of the faulty beginning; none when the input ends inside a character. -/
  length : Option Nat
  deriving DecidableEq, Repr

/-- The sentence that reports a fault. -/
def Fault.message (f : Fault) : String :=
  match f.length with
  | some n => s!"invalid utf-8 sequence of {n} bytes from index {f.index}"
  | none => s!"incomplete utf-8 byte sequence from index {f.index}"

/-- What the beginning of a byte sequence is. -/
inductive Beginning where
  /-- A character and the number of its bytes. -/
  | char (c : Char) (length : Nat)
  /-- The given number of bytes begin no character. -/
  | invalid (length : Nat)
  /-- The bytes begin a character but end inside it. -/
  | incomplete
  deriving DecidableEq, Repr

/-- Whether a byte continues a character. -/
def isTail (b : UInt8) : Bool := 0x80 ≤ b && b ≤ 0xBF

/-- The value bits of a continuation byte. -/
def tailBits (b : UInt8) : Nat := b.toNat % 64

/-- The second bytes that may follow the first byte of a longer character: they exclude overlong
forms, surrogates and code points above `U+10FFFF`. -/
def secondRange (first : UInt8) : UInt8 × UInt8 :=
  if first = 0xE0 then (0xA0, 0xBF)
  else if first = 0xED then (0x80, 0x9F)
  else if first = 0xF0 then (0x90, 0xBF)
  else if first = 0xF4 then (0x80, 0x8F)
  else (0x80, 0xBF)

/-- Whether the second byte may follow the first one. -/
def isSecond (first second : UInt8) : Bool :=
  (secondRange first).1 ≤ second && second ≤ (secondRange first).2

/-- The number of bytes of a character with the given first byte, zero if there is none. -/
def width (first : UInt8) : Nat :=
  if first < 0x80 then 1
  else if first < 0xC2 then 0
  else if first < 0xE0 then 2
  else if first < 0xF0 then 3
  else if first < 0xF5 then 4
  else 0

/-- The beginning of a byte sequence with a first byte. -/
def beginning (first : UInt8) (rest : List UInt8) : Beginning :=
  match width first, rest with
  | 0, _ => .invalid 1
  | 1, _ => .char (Char.ofNat first.toNat) 1
  | _, [] => .incomplete
  | w, second :: rest =>
    if !isSecond first second then .invalid 1
    else if w = 2 then .char (Char.ofNat (first.toNat % 32 * 64 + tailBits second)) 2
    else match rest with
      | [] => .incomplete
      | third :: rest =>
        if !isTail third then .invalid 2
        else if w = 3 then
          .char (Char.ofNat
            (first.toNat % 16 * 4096 + tailBits second * 64 + tailBits third)) 3
        else match rest with
          | [] => .incomplete
          | fourth :: _ =>
            if !isTail fourth then .invalid 3
            else .char (Char.ofNat (first.toNat % 8 * 262144 + tailBits second * 4096
              + tailBits third * 64 + tailBits fourth)) 4

/-- Decodes bytes that stand at an index. The bytes of a character behind its first one are counted
off by `pending`. -/
def decodeFrom (index pending : Nat) : List UInt8 → Except Fault (List Char)
  | [] => .ok []
  | b :: rest =>
    match pending with
    | more + 1 => decodeFrom (index + 1) more rest
    | 0 =>
      match beginning b rest with
      | .char c length => (c :: ·) <$> decodeFrom (index + 1) (length - 1) rest
      | .invalid length => .error ⟨index, some length⟩
      | .incomplete => .error ⟨index, none⟩

/-- The characters that a byte sequence encodes. -/
def decode (bytes : List UInt8) : Except Fault (List Char) := decodeFrom 0 0 bytes

/-- The number of bytes that encode a character sequence. -/
def byteCount : List Char → Nat
  | [] => 0
  | c :: rest => c.utf8Size + byteCount rest

/-- The bytes that encode a character sequence. -/
def encode (chars : List Char) : List UInt8 := chars.flatMap String.utf8EncodeChar

end Rulebook.Utf8
