import Reconcile.Text

/-!
# UTF-8

Encoding of characters, the order of texts by their encoded bytes, and decoding. In the
bytes of a text, a half of a surrogate pair stands as if it were a character. The
decoder tells where it refuses its input: at the first byte that no encoded
text can hold there, with the bytes of the character begun before it.
-/

namespace Reconcile.Utf8

/-- The bytes of some characters. -/
def encode (s : List Char) : List UInt8 := s.flatMap String.utf8EncodeChar

/-- The bytes of a code point. -/
def encodePoint : Point → List UInt8
  | .char c => String.utf8EncodeChar c
  | .half h =>
    [UInt8.ofNat (h.code / 0x1000 + 0xE0), UInt8.ofNat (h.code / 0x40 % 0x40 + 0x80),
     UInt8.ofNat (h.code % 0x40 + 0x80)]

/-- The bytes of a text. -/
def bytes (t : Text) : List UInt8 := t.points.flatMap encodePoint

/-- Whether the bytes of `a` come before those of `b`, or are the same. -/
def bytesLe (a b : Text) : Bool := decide (bytes a ≤ bytes b)

/-- Why some bytes are no encoded text. -/
inductive Reason
  /-- No character starts with this byte. -/
  | startByte
  /-- The character begun does not go on with this byte. -/
  | continuationByte
  /-- The input ends within a character. -/
  | truncated
deriving DecidableEq

/-- The wording of a reason. -/
def Reason.message : Reason → String
  | .startByte => "invalid start byte"
  | .continuationByte => "invalid continuation byte"
  | .truncated => "unexpected end of data"

/-- The bytes refused by the decoder: `length` of them, the first of which is
`byte` and stands at `offset`. -/
structure Refusal where
  offset : Nat
  length : Nat
  byte : UInt8
  reason : Reason
deriving DecidableEq

/-- Whether `b` is one of the bytes after the first of a character. -/
def isTail (b : UInt8) : Bool := 0x80 ≤ b && b < 0xC0

/-- Whether `b` may follow the first byte `a` of a character of three or four
bytes: no shorter encoding exists, and the character is no surrogate and not
beyond U+10FFFF. -/
def isSecond (a b : UInt8) : Bool :=
  isTail b && !(a = 0xE0 && b < 0xA0) && !(a = 0xED && 0xA0 ≤ b) &&
    !(a = 0xF0 && b < 0x90) && !(a = 0xF4 && 0x90 ≤ b)

/-- The low six bits of a tail byte. -/
def tailBits (b : UInt8) : Nat := b.toNat % 64

/-- Reads the encoded characters of a text whose first byte is at `offset`. -/
def decodeFrom (offset : Nat) : List UInt8 → Except Refusal (List Char)
  | [] => .ok []
  | a :: rest =>
    if a < 0x80 then
      (Char.ofNat a.toNat :: ·) <$> decodeFrom (offset + 1) rest
    else if a < 0xC2 || 0xF4 < a then .error ⟨offset, 1, a, .startByte⟩
    else if a < 0xE0 then
      match rest with
      | [] => .error ⟨offset, 1, a, .truncated⟩
      | b :: rest =>
        if !isTail b then .error ⟨offset, 1, a, .continuationByte⟩ else
        (Char.ofNat (a.toNat % 32 * 64 + tailBits b) :: ·) <$> decodeFrom (offset + 2) rest
    else
      match rest with
      | [] => .error ⟨offset, 1, a, .truncated⟩
      | b :: rest =>
        if !isSecond a b then .error ⟨offset, 1, a, .continuationByte⟩ else
        match rest with
        | [] => .error ⟨offset, 2, a, .truncated⟩
        | c :: rest =>
          if !isTail c then .error ⟨offset, 2, a, .continuationByte⟩
          else if a < 0xF0 then
            (Char.ofNat ((a.toNat % 16 * 64 + tailBits b) * 64 + tailBits c) :: ·) <$>
              decodeFrom (offset + 3) rest
          else
            match rest with
            | [] => .error ⟨offset, 3, a, .truncated⟩
            | d :: rest =>
              if !isTail d then .error ⟨offset, 3, a, .continuationByte⟩ else
              (Char.ofNat (((a.toNat % 8 * 64 + tailBits b) * 64 + tailBits c) * 64 + tailBits d)
                :: ·) <$> decodeFrom (offset + 4) rest

/-- The text that `bytes` encode, or where they stop being an encoded text. -/
def decode (bytes : List UInt8) : Except Refusal (List Char) := decodeFrom 0 bytes

end Reconcile.Utf8
