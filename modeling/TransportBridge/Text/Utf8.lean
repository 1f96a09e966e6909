/-!
Contract: well-formed UTF-8, from bytes to characters and back.

`decode` accepts exactly the shortest-form encodings of sequences of
characters (no surrogates, nothing above U+10FFFF). For other bytes it gives
the length of the longest well-formed part at the front, so the offset of the
first character that cannot be read. `encode` writes characters in shortest
form.
-/

namespace TransportBridge

abbrev Bytes := List UInt8

namespace Utf8

def encode (characters : List Char) : Bytes :=
  characters.flatMap String.utf8EncodeChar

/-- A byte that continues a character. -/
def isContinuation (b : UInt8) : Bool :=
  0x80 ≤ b && b < 0xc0

/-- Six payload bits of a continuation byte. -/
def low (b : UInt8) : Nat :=
  b.toNat % 0x40

/-- The second byte of a two-byte character may be any continuation byte, as
the first byte alone rules out longer spellings of ASCII. -/
def twoBytes? (a b : UInt8) : Option Char :=
  if 0xc2 ≤ a && a ≤ 0xdf && isContinuation b then
    some (Char.ofNat (a.toNat % 0x20 * 0x40 + low b))
  else none

/-- After `e0` the second byte starts at `a0` (shortest form), after `ed` it
ends at `9f` (no surrogates). -/
def threeBytes? (a b c : UInt8) : Option Char :=
  let second :=
    if a = 0xe0 then 0xa0 ≤ b && b < 0xc0
    else if a = 0xed then 0x80 ≤ b && b < 0xa0
    else isContinuation b
  if 0xe0 ≤ a && a ≤ 0xef && second && isContinuation c then
    some (Char.ofNat (a.toNat % 0x10 * 0x1000 + low b * 0x40 + low c))
  else none

/-- After `f0` the second byte starts at `90` (shortest form), after `f4` it
ends at `8f` (at most U+10FFFF). -/
def fourBytes? (a b c d : UInt8) : Option Char :=
  let second :=
    if a = 0xf0 then 0x90 ≤ b && b < 0xc0
    else if a = 0xf4 then 0x80 ≤ b && b < 0x90
    else isContinuation b
  if 0xf0 ≤ a && a ≤ 0xf4 && second && isContinuation c && isContinuation d then
    some (Char.ofNat
      (a.toNat % 0x08 * 0x40000 + low b * 0x1000 + low c * 0x40 + low d))
  else none

/-- Reads on from `offset`, with the characters read so far in reverse. -/
def decodeFrom (offset : Nat) (read : List Char) : Bytes → Except Nat (List Char)
  | [] => .ok read.reverse
  | a :: afterFirst =>
    if a < 0x80 then
      decodeFrom (offset + 1) (Char.ofNat a.toNat :: read) afterFirst
    else
      match afterFirst with
      | [] => .error offset
      | b :: afterSecond =>
        match twoBytes? a b with
        | some c => decodeFrom (offset + 2) (c :: read) afterSecond
        | none =>
          match afterSecond with
          | [] => .error offset
          | c :: afterThird =>
            match threeBytes? a b c with
            | some c => decodeFrom (offset + 3) (c :: read) afterThird
            | none =>
              match afterThird with
              | [] => .error offset
              | d :: afterFourth =>
                match fourBytes? a b c d with
                | some c => decodeFrom (offset + 4) (c :: read) afterFourth
                | none => .error offset

/-- The characters that the bytes spell, or the length of the longest part at
the front that is well formed. -/
def decode (bytes : Bytes) : Except Nat (List Char) :=
  decodeFrom 0 [] bytes

end Utf8

end TransportBridge
