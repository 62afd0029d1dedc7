-- Fixed strings of bytes that name things: a ticket has 32 bytes, an address
-- has 20. They are ordered as their bytes are, first difference first, and
-- that order is strict and total.
import RetryTickets.Bytes.Hex

namespace RetryTickets

/-- A string of exactly `size` bytes. -/
structure FixedBytes (size : Nat) where
  toBytes : Bytes
  length_eq : toBytes.length = size
  deriving DecidableEq

/-- The name of a ticket, and of a retry attempt. -/
abbrev TicketId := FixedBytes 32

/-- The name of an account. -/
abbrev Address := FixedBytes 20

namespace FixedBytes

variable {size : Nat}

/-- The bytes as a fixed string, if there are as many as it needs. -/
def ofBytes? (b : Bytes) : Option (FixedBytes size) :=
  if h : b.length = size then some ⟨b, h⟩ else none

/-- All bytes zero. -/
def zero : FixedBytes size := ⟨List.replicate size 0, List.length_replicate⟩

instance : Inhabited (FixedBytes size) := ⟨zero⟩

instance : LT (FixedBytes size) := ⟨fun a b => a.toBytes < b.toBytes⟩

instance (a b : FixedBytes size) : Decidable (a < b) :=
  inferInstanceAs (Decidable (a.toBytes < b.toBytes))

/-- The fixed string at the front of the bytes, and what follows it. -/
def read? (size : Nat) (b : Bytes) : Option (FixedBytes size × Bytes) := do
  let (front, rest) ← Bytes.split? size b
  let name ← ofBytes? front
  return (name, rest)

/-- The lower-case form with its mark in front. -/
def text (name : FixedBytes size) : String := "0x" ++ String.ofList (Hex.encode name.toBytes)

/-! ## Laws -/

theorem ext_toBytes {a b : FixedBytes size} (h : a.toBytes = b.toBytes) : a = b := by
  cases a
  cases b
  simp_all

theorem ofBytes?_toBytes (name : FixedBytes size) : ofBytes? name.toBytes = some name := by
  simp [ofBytes?, name.length_eq]

theorem ofBytes?_eq_some_iff {b : Bytes} {name : FixedBytes size} :
    ofBytes? b = some name ↔ name.toBytes = b := by
  constructor
  · intro h
    simp only [ofBytes?, Option.dite_none_right_eq_some, Option.some.injEq] at h
    obtain ⟨_, rfl⟩ := h
    rfl
  · rintro rfl
    exact ofBytes?_toBytes name

theorem read?_append (name : FixedBytes size) (rest : Bytes) :
    read? size (name.toBytes ++ rest) = some (name, rest) := by
  have h := Bytes.split?_append name.toBytes rest
  rw [name.length_eq] at h
  simp [read?, h, ofBytes?_toBytes]

theorem read?_eq_some_iff {b rest : Bytes} {name : FixedBytes size} :
    read? size b = some (name, rest) ↔ b = name.toBytes ++ rest := by
  constructor
  · intro h
    simp only [read?, Option.bind_eq_bind, Option.bind_eq_some_iff, Option.pure_def,
      Option.some.injEq, Prod.mk.injEq, Prod.exists] at h
    obtain ⟨front, tail, hs, name', hn, rfl, rfl⟩ := h
    rw [ofBytes?_eq_some_iff] at hn
    rw [Bytes.split?_eq_some_iff] at hs
    rw [hn]
    exact hs.2
  · rintro rfl
    exact read?_append name rest

theorem lt_irrefl (a : FixedBytes size) : ¬ a < a := List.lt_irrefl a.toBytes

theorem lt_trans {a b c : FixedBytes size} (hab : a < b) (hbc : b < c) : a < c :=
  List.lt_trans hab hbc

theorem lt_asymm {a b : FixedBytes size} (hab : a < b) : ¬ b < a :=
  fun hba => lt_irrefl a (lt_trans hab hba)

theorem lt_of_not_lt_of_ne {a b : FixedBytes size} (hba : ¬ b < a) (hne : a ≠ b) : a < b := by
  have hle : a.toBytes ≤ b.toBytes := hba
  rcases Decidable.em (a < b) with h | h
  · exact h
  · exact absurd (ext_toBytes (List.le_antisymm hle h)) hne

end FixedBytes

end RetryTickets
