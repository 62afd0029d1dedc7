-- The hash Keccak-256, on bytes, with the padding of the first Keccak
-- submission.
import RetryTickets.Identifier

namespace RetryTickets.Keccak256

/-- Twenty-five lanes; the lane in column `x` of row `y` has index `x + 5 * y`. -/
abbrev State := Vector UInt64 25

/-- The bytes of a block that are mixed into the state. -/
def rate : Nat := 136

/-- What each round adds to the first lane. -/
def roundConstants : List UInt64 :=
  [0x0000000000000001, 0x0000000000008082, 0x800000000000808a, 0x8000000080008000,
   0x000000000000808b, 0x0000000080000001, 0x8000000080008081, 0x8000000000008009,
   0x000000000000008a, 0x0000000000000088, 0x0000000080008009, 0x000000008000000a,
   0x000000008000808b, 0x800000000000008b, 0x8000000000008089, 0x8000000000008003,
   0x8000000000008002, 0x8000000000000080, 0x000000000000800a, 0x800000008000000a,
   0x8000000080008081, 0x8000000000008080, 0x0000000080000001, 0x8000000080008008]

/-- How far each lane is turned, by index. -/
def offsets : List UInt64 :=
  [0, 1, 62, 28, 27,
   36, 44, 6, 55, 20,
   3, 10, 43, 25, 39,
   41, 45, 15, 21, 8,
   18, 2, 61, 56, 14]

/-- A lane turned to the left. -/
def rotate (n x : UInt64) : UInt64 := (x <<< n) ||| (x >>> (64 - n))

/-- The lane in a column and row, both counted around. -/
def State.lane (s : State) (x y : Nat) : UInt64 := s[x % 5 + 5 * (y % 5)]

/-- The state whose lanes are given by column and row. -/
def State.build (f : Nat → Nat → UInt64) : State := Vector.ofFn fun i => f (i.val % 5) (i.val / 5)

/-- The sum of a column. -/
def State.column (s : State) (x : Nat) : UInt64 :=
  s.lane x 0 ^^^ s.lane x 1 ^^^ s.lane x 2 ^^^ s.lane x 3 ^^^ s.lane x 4

/-- Adds two neighbouring columns to every lane. -/
def spread (s : State) : State :=
  let sums := Vector.ofFn fun (i : Fin 5) => s.column (i.val + 4) ^^^ rotate 1 (s.column (i.val + 1))
  State.build fun x y => s.lane x y ^^^ sums[x % 5]

/-- Turns every lane and moves it to its new place. -/
def turn (s : State) : State :=
  State.build fun x y => rotate (offsets.getD ((x + 3 * y) % 5 + 5 * x) 0) (s.lane (x + 3 * y) x)

/-- Mixes every lane with the next two of its row. -/
def mix (s : State) : State :=
  State.build fun x y => s.lane x y ^^^ (~~~s.lane (x + 1) y &&& s.lane (x + 2) y)

/-- One round. -/
def round (s : State) (constant : UInt64) : State :=
  let t := mix (turn (spread s))
  t.set 0 (t[0] ^^^ constant)

/-- All rounds. -/
def permute (s : State) : State := roundConstants.foldl round s

/-- The message with a one bit, zeros and a last one bit, so that it fills whole blocks. -/
def padded (message : Bytes) : Bytes :=
  let gap := rate - message.length % rate
  if gap = 1 then message ++ [0x81] else message ++ 0x01 :: List.replicate (gap - 2) 0 ++ [0x80]

/-- The eight-byte lanes of a block, low byte first. -/
def lanes (block : Bytes) : List UInt64 :=
  (Bytes.chunks 8 block).map fun piece => UInt64.ofNat (Bytes.ofLittle piece)

/-- The state after one more block. -/
def absorb (s : State) (block : Bytes) : State :=
  let ls := lanes block
  permute (Vector.ofFn fun i => s[i] ^^^ ls.getD i.val 0)

/-- The first four lanes written out, low byte first. -/
def State.front (s : State) : Bytes :=
  let lane := fun (w : UInt64) => Bytes.little 8 w.toNat
  lane s[0] ++ lane s[1] ++ lane s[2] ++ lane s[3]

theorem State.length_front (s : State) : s.front.length = 32 := by simp [State.front]

/-- The digest of a message. -/
def digest (message : Bytes) : FixedBytes 32 :=
  let final := (Bytes.chunks rate (padded message)).foldl absorb (Vector.replicate 25 0)
  ⟨State.front final, State.length_front final⟩

end RetryTickets.Keccak256
