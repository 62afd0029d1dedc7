-- Decimal numerals: digits only, after at most one plus sign.

namespace RetryTickets.Text

/-- The value of the digits, or nothing at the first character that is none. -/
def digitsValue? : (value : Nat) → List Char → Option Nat
  | value, [] => some value
  | value, c :: rest =>
    if '0' ≤ c ∧ c ≤ '9' then digitsValue? (10 * value + (c.toNat - 48)) rest else none

/-- A numeral without its plus sign. -/
def unsigned : List Char → List Char
  | '+' :: rest => rest
  | text => text

/-- The number that a numeral names, if it is below `bound`. There is at least one digit;
leading zeros are fine. -/
def numeral? (bound : Nat) (text : String) : Option Nat :=
  match unsigned text.toList with
  | [] => none
  | digits =>
    match digitsValue? 0 digits with
    | some value => if value < bound then some value else none
    | none => none

/-- A numeral for a word of 64 bits. -/
def word64? (text : String) : Option UInt64 := (numeral? 0x10000000000000000 text).map UInt64.ofNat

/-- A numeral for a word of 128 bits. -/
def word128? (text : String) : Option (BitVec 128) :=
  (numeral? 0x100000000000000000000000000000000 text).map (BitVec.ofNat 128)

end RetryTickets.Text
