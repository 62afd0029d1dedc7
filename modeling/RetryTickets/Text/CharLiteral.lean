-- How a single byte is shown in a message: as the character of that code
-- point, between quotes, escaped where it cannot be seen.

namespace RetryTickets.Text

/-- The digits of a number to base 16, in lower case and without leading zeros. -/
def hexDigits (n : Nat) : String := String.ofList (Nat.toDigits 16 n)

/-- The code points below 256 that have no visible shape of their own. -/
def isUnprintable (n : Nat) : Bool := n < 0x20 || (0x7f ≤ n && n ≤ 0xa0) || n = 0xad

/-- The text between the quotes. Quote and backslash take a backslash, the common control
characters have letters, and what else cannot be printed is shown by its code point. -/
def byteEscape (byte : UInt8) : String :=
  let n := byte.toNat
  if n = 0 then "\\0"
  else if n = 9 then "\\t"
  else if n = 10 then "\\n"
  else if n = 13 then "\\r"
  else if n = 39 || n = 92 then String.ofList [Char.ofNat 92, Char.ofNat n]
  else if isUnprintable n then "\\u\x7b" ++ hexDigits n ++ "\x7d"
  else String.singleton (Char.ofNat n)

/-- A byte as a quoted character. -/
def byteLiteral (byte : UInt8) : String := "'" ++ byteEscape byte ++ "'"

end RetryTickets.Text
