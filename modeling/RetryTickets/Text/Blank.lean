-- The characters that count as blank space, and texts without them at the ends.

namespace RetryTickets.Text

/-- The code points with the Unicode property White_Space, as ranges. -/
def blankRanges : List (Nat × Nat) :=
  [(0x09, 0x0d), (0x20, 0x20), (0x85, 0x85), (0xa0, 0xa0), (0x1680, 0x1680),
   (0x2000, 0x200a), (0x2028, 0x2029), (0x202f, 0x202f), (0x205f, 0x205f), (0x3000, 0x3000)]

/-- Blank space, as Unicode has it. -/
def isBlank (c : Char) : Bool :=
  blankRanges.any fun (low, high) => low ≤ c.toNat && c.toNat ≤ high

/-- A text without the blank space at its start. -/
def trimStart (text : List Char) : List Char := text.dropWhile isBlank

/-- A text without the blank space at its end. -/
def trimEnd (text : List Char) : List Char := (trimStart text.reverse).reverse

/-- A text without the blank space at both ends. -/
def trim (text : List Char) : List Char := trimEnd (trimStart text)

end RetryTickets.Text
