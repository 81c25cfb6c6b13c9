import Marginalia.Text.Hex

/-!
# Text from bytes

Bytes in the UTF-8 encoding are read one character at a time.  `decodeStep` reads the next character
or says what is wrong and how many bytes are concerned: the longest part that could have started a
character.  `decode` stops at the first fault; `decodeLossy` puts one replacement character for
each.
-/

namespace Marginalia.Text

/-- What is wrong with bytes. -/
inductive ByteFault
  | startByte
  | continuation
  | truncated
deriving DecidableEq, Repr

/-- The wording of a fault. -/
def ByteFault.text : ByteFault → String
  | .startByte => "invalid start byte"
  | .continuation => "invalid continuation byte"
  | .truncated => "unexpected end of data"

/-- A fault in a sequence of bytes: its first byte, where it stands, and how many bytes it takes in.
-/
structure DecodeError where
  fault : ByteFault
  byte : UInt8
  position : Nat
  size : Nat
deriving DecidableEq, Repr

/-- The wording of a decoding error. -/
def DecodeError.message (e : DecodeError) : String :=
  "'utf-8' codec can't decode " ++
    (if e.size = 1 then
      "byte 0x" ++ String.ofList (hex 2 e.byte.toNat) ++ " in position " ++ toString e.position
    else
      "bytes in position " ++ toString e.position ++ "-" ++ toString (e.position + e.size - 1)) ++
    ": " ++ e.fault.text

/-- The bounds of the bytes that may follow a start byte, and the bits that the start byte gives;
`none` if no character starts with the byte.  The second byte has narrower bounds after four start
bytes, which keeps out longer forms than needed, surrogates, and numbers beyond the last code point.
-/
def byteForm (b : Nat) : Option (Nat × List (Nat × Nat)) :=
  let any := (0x80, 0xbf)
  if b < 0x80 then some (b, [])
  else if b < 0xc2 then none
  else if b < 0xe0 then some (b - 0xc0, [any])
  else if b < 0xf0 then
    let second := if b = 0xe0 then (0xa0, 0xbf) else if b = 0xed then (0x80, 0x9f) else any
    some (b - 0xe0, [second, any])
  else if b < 0xf5 then
    let second := if b = 0xf0 then (0x90, 0xbf) else if b = 0xf4 then (0x80, 0x8f) else any
    some (b - 0xf0, [second, any, any])
  else none

/-- Reads the bytes that have to follow, after `taken` bytes with the value `n`. -/
def followBytes (n taken : Nat) :
    List (Nat × Nat) → List UInt8 → Except (ByteFault × Nat) (Nat × List UInt8)
  | [], bs => .ok (n, bs)
  | _ :: _, [] => .error (.truncated, taken)
  | (lo, hi) :: bounds, b :: bs =>
    if lo ≤ b.toNat && b.toNat ≤ hi then followBytes (n * 64 + b.toNat % 64) (taken + 1) bounds bs
    else .error (.continuation, taken)

/-- Reads one character that starts with the byte `b`. -/
def decodeStep (b : UInt8) (bs : List UInt8) : Except (ByteFault × Nat) (Char × List UInt8) :=
  match byteForm b.toNat with
  | none => .error (.startByte, 1)
  | some (n, bounds) => (followBytes n 1 bounds bs).map fun (n, rest) => (Char.ofNat n, rest)

/-- Reads all characters of the last of `total` bytes; each step takes at least one byte.  `done`
holds the characters before, the latest first. -/
def decodeFrom (total : Nat) : Nat → List Char → List UInt8 → Except DecodeError (List Char)
  | _, done, [] => .ok done.reverse
  | 0, done, _ => .ok done.reverse
  | left + 1, done, b :: bs =>
    match decodeStep b bs with
    | .error (fault, size) => .error ⟨fault, b, total - (bs.length + 1), size⟩
    | .ok (c, rest) => decodeFrom total left (c :: done) rest

/-- The text of bytes, if they have one. -/
def decode (bs : List UInt8) : Except DecodeError (List Char) :=
  decodeFrom bs.length bs.length [] bs

/-- The character that stands for bytes that are none. -/
def replacement : Char := Char.ofNat 0xfffd

/-- Reads all characters, with a replacement character for each fault. -/
def decodeLossyFrom : Nat → List UInt8 → List Char
  | _, [] => []
  | 0, _ => []
  | left + 1, b :: bs =>
    match decodeStep b bs with
    | .error (_, size) => replacement :: decodeLossyFrom left (bs.drop (size - 1))
    | .ok (c, rest) => c :: decodeLossyFrom left rest

/-- The text of bytes, where a replacement character stands for what has none. -/
def decodeLossy (bs : List UInt8) : List Char := decodeLossyFrom bs.length bs

/-- The bytes of a text. -/
def encode (s : String) : List UInt8 := s.toUTF8.toList

/-- Turns a carriage return, with or without a line feed after it, into a line feed. -/
def unifyLineEnds : List Char → List Char
  | '\r' :: '\n' :: cs => '\n' :: unifyLineEnds cs
  | c :: cs => (if c = '\r' then '\n' else c) :: unifyLineEnds cs
  | [] => []

end Marginalia.Text
