-- Hexadecimal digits. Writing uses lower case; reading takes either case and
-- says what it refuses.
import RetryTickets.Bytes

namespace RetryTickets.Hex

/-- Why a text is not a row of hexadecimal digit pairs. -/
inductive Fault where
  /-- The text has an odd number of bytes. -/
  | oddLength
  /-- The byte at this place is the first that is no digit. -/
  | badDigit (byte : UInt8) (place : Nat)
  deriving DecidableEq

/-- The digit of a value below sixteen. -/
def digit (value : Nat) : Char :=
  if value < 10 then Char.ofNat (48 + value) else Char.ofNat (87 + value)

/-- Two digits for a byte, the high one first. -/
def encodeByte (b : UInt8) : List Char := [digit (b.toNat / 16), digit (b.toNat % 16)]

/-- Two digits for each byte. -/
def encode (b : Bytes) : List Char := b.flatMap encodeByte

/-- The value of a digit of either case. -/
def digitValue? (c : UInt8) : Option Nat :=
  let n := c.toNat
  if 48 ≤ n ∧ n ≤ 57 then some (n - 48)
  else if 97 ≤ n ∧ n ≤ 102 then some (n - 87)
  else if 65 ≤ n ∧ n ≤ 70 then some (n - 55)
  else none

/-- The value of a byte at a place, which must be a digit. -/
def digitAt (place : Nat) (c : UInt8) : Except Fault Nat :=
  match digitValue? c with
  | some value => .ok value
  | none => .error (.badDigit c place)

/-- Reads pairs of digits; `place` counts the bytes read before. -/
def decodePairs (place : Nat) : Bytes → Except Fault Bytes
  | [] => .ok []
  | [_] => .error .oddLength
  | high :: low :: rest => do
    let h ← digitAt place high
    let l ← digitAt (place + 1) low
    let tail ← decodePairs (place + 2) rest
    return UInt8.ofNat (16 * h + l) :: tail

/-- The bytes that a text spells. An odd length is noticed before any bad digit. -/
def decode (text : Bytes) : Except Fault Bytes :=
  if text.length % 2 = 1 then .error .oddLength else decodePairs 0 text

end RetryTickets.Hex
