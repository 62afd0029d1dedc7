-- Prices in numbers without bound. A ticket takes seven words and those of its
-- calldata. Keeping and reading cost so much for each word, as long as the price
-- fits, and otherwise nobody can pay.
import Mathlib.Algebra.Group.Nat.Defs
import RetryTickets.Ticket

namespace RetryTickets

/-! ## Words -/

/-- The words that hold some bytes, the last one maybe not full. -/
def wordsOf (bytes : Nat) : Nat := (bytes + 31) / 32

/-- The words that a ticket takes. -/
def Ticket.words (ticket : Ticket) : Nat := 7 + wordsOf ticket.calldata.length

namespace Gas

theorem toNat_limit : limit.toNat = 2 ^ 64 - 1 := by decide

theorem toNat_wordsForBytes (n : UInt64) : (wordsForBytes n).toNat = wordsOf n.toNat := by
  have hn := n.toNat_lt
  have hsize : wordSize.toNat = 32 := by decide
  have hrest : (n % wordSize = 0) ↔ n.toNat % 32 = 0 := by
    rw [← UInt64.toNat_inj, UInt64.toNat_mod, hsize]
    rfl
  unfold wordsForBytes wordsOf
  rw [UInt64.toNat_add, UInt64.toNat_div, hsize]
  by_cases h : n % wordSize = 0
  · have hzero := hrest.1 h
    rw [if_pos h, UInt64.toNat_zero]
    omega
  · have hsome : n.toNat % 32 ≠ 0 := fun hzero => h (hrest.2 hzero)
    rw [if_neg h, UInt64.toNat_one]
    omega

theorem times?_of_lt {a b : UInt64} (h : a.toNat * b.toNat < 2 ^ 64) : times? a b = some (a * b) :=
  if_pos (by rw [toNat_limit]; omega)

theorem times?_of_le {a b : UInt64} (h : 2 ^ 64 ≤ a.toNat * b.toNat) : times? a b = none :=
  if_neg (by rw [toNat_limit]; omega)

/-! ## Prices -/

/-- The price of keeping: 200 for each word. What has to fit is the undiscounted one. -/
theorem keepalive_eq (n : UInt64) : keepalive n =
    if 20000 * wordsOf n.toNat < 2 ^ 64 then .ok (UInt64.ofNat (200 * wordsOf n.toNat))
    else .error unpayable := by
  have hwords := toNat_wordsForBytes n
  have hwrite : storageWrite.toNat = 20000 := by decide
  have hdiscount : updateDiscount.toNat = 100 := by decide
  have hprice : (wordsForBytes n).toNat * storageWrite.toNat = 20000 * wordsOf n.toNat := by
    rw [hwords, hwrite, Nat.mul_comm]
  unfold keepalive
  by_cases h : 20000 * wordsOf n.toNat < 2 ^ 64
  · rw [if_pos h, times?_of_lt (hprice ▸ h)]
    have hdiscounted : (wordsForBytes n * storageWrite / updateDiscount).toNat =
        (UInt64.ofNat (200 * wordsOf n.toNat)).toNat := by
      have hfits : 200 * wordsOf n.toNat < 2 ^ 64 := by omega
      rw [UInt64.toNat_div, UInt64.toNat_mul, hprice, hdiscount, UInt64.toNat_ofNat',
        Nat.mod_eq_of_lt h, Nat.mod_eq_of_lt hfits]
      omega
    exact congrArg Except.ok (UInt64.toNat_inj.1 hdiscounted)
  · rw [if_neg h, times?_of_le (hprice ▸ Nat.not_lt.1 h)]

/-- The price of reading: 50 for each word. -/
theorem redeemRead_eq (n : UInt64) : redeemRead n =
    if 50 * wordsOf n.toNat < 2 ^ 64 then .ok (UInt64.ofNat (50 * wordsOf n.toNat))
    else .error unpayable := by
  have hread : storageRead.toNat = 50 := by decide
  have hprice : storageRead.toNat * (wordsForBytes n).toNat = 50 * wordsOf n.toNat := by
    rw [toNat_wordsForBytes n, hread]
  unfold redeemRead
  by_cases h : 50 * wordsOf n.toNat < 2 ^ 64
  · rw [if_pos h, times?_of_lt (hprice ▸ h)]
    have hsame : (storageRead * wordsForBytes n).toNat =
        (UInt64.ofNat (50 * wordsOf n.toNat)).toNat := by
      rw [UInt64.toNat_mul, hprice, UInt64.toNat_ofNat']
    exact congrArg Except.ok (UInt64.toNat_inj.1 hsame)
  · rw [if_neg h, times?_of_le (hprice ▸ Nat.not_lt.1 h)]

end Gas

/-! ## Tickets -/

namespace Ticket

variable {ticket : Ticket}

/-- The size of a ticket is that of its words, as long as it fits. -/
theorem toNat_sizeBytes (h : 32 * ticket.words < 2 ^ 64) :
    ticket.sizeBytes.toNat = 32 * ticket.words := by
  have hfixed : fixedWords.toNat = 6 := by decide
  have hsize : Gas.wordSize.toNat = 32 := by decide
  have hlength : (UInt64.ofNat ticket.calldata.length).toNat = ticket.calldata.length := by
    rw [UInt64.toNat_ofNat']
    unfold words wordsOf at h
    omega
  have hwords := Gas.toNat_wordsForBytes (UInt64.ofNat ticket.calldata.length)
  rw [hlength] at hwords
  unfold sizeBytes
  simp only [UInt64.toNat_add, UInt64.toNat_mul, hfixed, hsize, hwords]
  unfold words at h ⊢
  omega

theorem wordsOf_sizeBytes (h : 32 * ticket.words < 2 ^ 64) :
    wordsOf ticket.sizeBytes.toNat = ticket.words := by
  rw [toNat_sizeBytes h]
  unfold wordsOf
  omega

theorem keepalive_sizeBytes (h : 20000 * ticket.words < 2 ^ 64) :
    Gas.keepalive ticket.sizeBytes = .ok (UInt64.ofNat (200 * ticket.words)) := by
  rw [Gas.keepalive_eq, wordsOf_sizeBytes (by omega), if_pos h]

theorem redeemRead_sizeBytes (h : 50 * ticket.words < 2 ^ 64) :
    Gas.redeemRead ticket.sizeBytes = .ok (UInt64.ofNat (50 * ticket.words)) := by
  rw [Gas.redeemRead_eq, wordsOf_sizeBytes (by omega), if_pos h]

end Ticket

end RetryTickets
