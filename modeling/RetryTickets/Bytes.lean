-- Strings of bytes, and the two orders in which a number of fixed width is
-- written in them. Reading a written number gives it back, and every run of
-- bytes is the written form of the number read from it.

namespace RetryTickets

/-- A string of bytes. -/
abbrev Bytes := List UInt8

namespace Bytes

/-- The `width` lowest digits of a number to base 256, lowest first. -/
def little : (width value : Nat) → Bytes
  | 0, _ => []
  | width + 1, value => UInt8.ofNat (value % 256) :: little width (value / 256)

/-- The `width` lowest digits of a number to base 256, highest first. -/
def big (width value : Nat) : Bytes := (little width value).reverse

/-- The number whose digits to base 256 are these bytes, lowest first. -/
def ofLittle : Bytes → Nat
  | [] => 0
  | digit :: rest => digit.toNat + 256 * ofLittle rest

/-- The first `n` bytes and the rest, if there are that many. -/
def split? (n : Nat) (b : Bytes) : Option (Bytes × Bytes) :=
  let front := b.take n
  if front.length = n then some (front, b.drop n) else none

/-- The bytes cut into pieces of `size`, the last one maybe shorter. -/
def chunks (size : Nat) (b : Bytes) : List Bytes :=
  if _h : size = 0 ∨ b = [] then [] else b.take size :: chunks size (b.drop size)
termination_by b.length
decreasing_by
  have : b.length ≠ 0 := by simp_all
  simp only [List.length_drop]
  omega

/-! ## Laws -/

@[simp] theorem length_little (width value : Nat) : (little width value).length = width := by
  induction width generalizing value with
  | zero => rfl
  | succ width ih => simp [little, ih]

@[simp] theorem length_big (width value : Nat) : (big width value).length = width := by
  simp [big]

theorem little_ofLittle (b : Bytes) : little b.length (ofLittle b) = b := by
  induction b with
  | nil => rfl
  | cons digit rest ih =>
    have h := digit.toNat_lt
    have low : (digit.toNat + 256 * ofLittle rest) % 256 = digit.toNat := by omega
    have high : (digit.toNat + 256 * ofLittle rest) / 256 = ofLittle rest := by omega
    simp [little, ofLittle, low, high, ih]

theorem split?_append (front rest : Bytes) : split? front.length (front ++ rest) = some (front, rest) := by
  simp [split?]

theorem split?_eq_some_iff {n : Nat} {b front rest : Bytes} :
    split? n b = some (front, rest) ↔ front.length = n ∧ b = front ++ rest := by
  constructor
  · intro h
    simp only [split?, Option.ite_none_right_eq_some, Option.some.injEq, Prod.mk.injEq] at h
    obtain ⟨hn, rfl, rfl⟩ := h
    exact ⟨hn, (List.take_append_drop n b).symm⟩
  · rintro ⟨rfl, rfl⟩
    exact split?_append front rest

theorem split?_eq_none_iff {n : Nat} {b : Bytes} : split? n b = none ↔ b.length < n := by
  simp only [split?, List.length_take, ite_eq_right_iff, reduceCtorEq, imp_false]
  omega

end Bytes

end RetryTickets
