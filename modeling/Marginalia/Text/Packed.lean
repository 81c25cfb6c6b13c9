/-!
# Packed texts

A text in capital letters, digits and signs is kept in fewer characters, as an arithmetic code.  A
character of the text is six bits, the highest first.  How likely a bit is to be set is guessed from
the bits that came before in the same place behind the same characters: behind no character at all,
behind the last one, and so on.  A guess from more characters starts from the guess that fewer of them
give, and counts for more the more often it was made.  The code is a number between zero and one; each
bit divides the range in which the number lies in proportion to the guess.
-/

namespace Marginalia.Text

/-- How many texts there are of the sizes that guesses go by, which are those of up to four characters
and of six. -/
def guessSpans : List Nat := [0, 1, 2, 3, 4, 6].map (Nat.pow 64)

/-- The value of a digit of a packed text; the digits are the characters from `#` to `z` without the
backslash. -/
def packedDigit (c : Char) : Nat := if c < '\\' then c.toNat - '#'.toNat else c.toNat - '$'.toNat

/-- The number of digits. -/
def packedBase : Nat := 87

/-- How far a packed text has been read. -/
structure Unpacking where
  /-- How often the bits of each place came up, times sixteen, and how often they were set. -/
  counts : ByteArray
  /-- The number that is read, and the size of the range in which it lies. -/
  code : Nat
  range : Nat
  /-- The digits that are still to be read. -/
  rest : List Char
  /-- The last six characters as a number. -/
  recent : Nat

namespace Unpacking

/-- The number of places for counts. -/
def places : Nat := 33554393

/-- The place for the counts of a bit behind the last characters; `bits` are those of the character so
far, behind a one. -/
def place (recent bits span : Nat) : Nat := ((recent % span + span) * 64 + bits) % places

/-- How likely a bit is to be set, in parts of 65536. -/
def guess (counts : ByteArray) (ps : List Nat) : Nat :=
  let p := ps.foldl (fun p i =>
    let n := (counts.get! i).toNat
    (n % 16 * 65536 + 5 * p) / (n / 16 + 5)) 32768
  max 32 (min p 65504)

/-- The counts after one more bit; they are halved before they grow too large. -/
def counted (bit : Bool) (n : UInt8) : UInt8 :=
  let seen := n.toNat / 16 + 1
  let set := n.toNat % 16 + bit.toNat
  UInt8.ofNat (if seen = 16 then seen / 2 * 16 + set / 2 else seen * 16 + set)

/-- Reads digits until the range is large enough. -/
def refill (code range : Nat) : List Char → Nat × Nat × List Char
  | [] => (code, range, [])
  | d :: ds =>
    if range < packedBase ^ 4 then
      refill (code * packedBase + packedDigit d) (range * packedBase) ds
    else (code, range, d :: ds)

/-- Reads a bit of a character. -/
def bit (bits : Nat) : Unpacking → Bool × Unpacking
  | ⟨counts, code, range, rest, recent⟩ =>
    let ps := guessSpans.map (place recent bits)
    let bound := range * guess counts ps / 65536
    let set := code < bound
    let counts := ps.foldl (fun cs i => cs.set! i (counted set (cs.get! i))) counts
    let (code, range, rest) :=
      if set then refill code bound rest else refill (code - bound) (range - bound) rest
    (set, ⟨counts, code, range, rest, recent⟩)

/-- Reads as many bits of a character as there are left. -/
def character : Nat → Nat → Unpacking → Nat × Unpacking
  | 0, bits, u => (bits, u)
  | left + 1, bits, u =>
    let (set, u) := u.bit bits
    character left (2 * bits + set.toNat) u

/-- Reads characters. -/
def characters : Nat → Unpacking → Array Char → Array Char
  | 0, _, done => done
  | left + 1, u, done =>
    let (bits, ⟨counts, code, range, rest, recent⟩) := character 6 1 u
    let value := bits - 64
    characters left ⟨counts, code, range, rest, (recent * 64 + value) % 64 ^ 6⟩
      (done.push (Char.ofNat (' '.toNat + value)))

end Unpacking

/-- The text of the given size that is packed. -/
def unpacked (size : Nat) (packed : List Char) : Array Char :=
  let counts := (List.range 25).foldl (fun zeros _ => zeros ++ zeros) (ByteArray.empty.push 0)
  let (code, range, rest) := Unpacking.refill 0 1 packed
  Unpacking.characters size ⟨counts, code, range, rest, 0⟩ #[]

end Marginalia.Text
