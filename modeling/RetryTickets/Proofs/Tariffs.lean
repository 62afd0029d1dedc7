-- The tariff over all words of 64 bits. Sizes are rounded up to whole words, a
-- price for each word is exact as long as it can be told at all, and a log entry
-- costs what its topics and bytes cost together, up to the largest price.
import Mathlib.Data.ENat.Basic
import RetryTickets.Proofs.Prices
import RetryTickets.Proofs.Tickets

namespace RetryTickets

/-- Words are enough for some bytes just when the bytes are no more than those of the words. -/
theorem wordsOf_le_iff {bytes words : Nat} : wordsOf bytes ≤ words ↔ bytes ≤ 32 * words := by
  unfold wordsOf
  omega

theorem wordsOf_mono {less more : Nat} (h : less ≤ more) : wordsOf less ≤ wordsOf more := by
  unfold wordsOf
  omega

namespace Gas

/-! ## Prices for each word -/

/-- What a price comes to. What nobody can pay is above every price. -/
def amount : Except Shortfall UInt64 → ℕ∞
  | .ok price => price.toNat
  | .error _ => ⊤

/-- A price of `rate` for each word of a size, which is told just when `gross` for each word fits
64 bits. -/
structure PerWord (rate gross : Nat) (price : UInt64 → Except Shortfall UInt64) : Prop where
  told : ∀ size, (∃ gas, price size = .ok gas ∧ gas.toNat = rate * wordsOf size.toNat) ↔
    gross * wordsOf size.toNat ≤ 2 ^ 64 - 1
  untold : ∀ size, ¬ gross * wordsOf size.toNat ≤ 2 ^ 64 - 1 →
    price size = .error ⟨18446744073709551615, 0⟩
  rises : ∀ less more, less ≤ more → amount (price less) ≤ amount (price more)

variable {rate gross : Nat} {price : UInt64 → Except Shortfall UInt64}

theorem perWord_of_eq (hrate : rate ≤ gross) (h : ∀ size, price size =
      if gross * wordsOf size.toNat < 2 ^ 64 then .ok (UInt64.ofNat (rate * wordsOf size.toNat))
      else .error unpayable) : PerWord rate gross price := by
  have hexact (size : UInt64) (hfits : gross * wordsOf size.toNat < 2 ^ 64) :
      (UInt64.ofNat (rate * wordsOf size.toNat)).toNat = rate * wordsOf size.toNat := by
    have hless := Nat.mul_le_mul_right (wordsOf size.toNat) hrate
    rw [UInt64.toNat_ofNat', Nat.mod_eq_of_lt (by omega)]
  refine ⟨fun size => ?_, fun size hlarge => ?_, fun less more hle => ?_⟩
  · rw [h size]
    split
    · rename_i hfits
      exact iff_of_true ⟨_, rfl, hexact size hfits⟩ (by omega)
    · rename_i hlarge
      exact iff_of_false nofun (by omega)
  · rw [h size, if_neg (by omega)]
    rfl
  · rw [h less, h more]
    have hwords := wordsOf_mono (UInt64.le_iff_toNat_le.1 hle)
    by_cases hfits : gross * wordsOf more.toNat < 2 ^ 64
    · have hbelow := Nat.mul_le_mul_left gross hwords
      rw [if_pos (by omega), if_pos hfits]
      simp only [amount, hexact more hfits, hexact less (by omega), Nat.cast_le]
      exact Nat.mul_le_mul_left rate hwords
    · rw [if_neg hfits]
      exact le_top

/-! ## Log entries -/

/-- A product that does not fit counts as the largest price. -/
theorem toNat_times (a b : UInt64) :
    ((times? a b).getD limit).toNat = min (2 ^ 64 - 1) (a.toNat * b.toNat) := by
  by_cases h : a.toNat * b.toNat < 2 ^ 64
  · rw [times?_of_lt h, Option.getD_some, UInt64.toNat_mul, Nat.mod_eq_of_lt h]
    omega
  · rw [times?_of_le (Nat.not_lt.1 h), Option.getD_none, toNat_limit]
    omega

/-- A sum that does not fit counts as the largest price. -/
theorem toNat_plus (a b : UInt64) :
    ((plus? a b).getD limit).toNat = min (2 ^ 64 - 1) (a.toNat + b.toNat) := by
  unfold plus?
  rw [toNat_limit]
  split
  · rename_i h
    rw [Option.getD_some, UInt64.toNat_add, Nat.mod_eq_of_lt (by omega)]
    omega
  · rw [Option.getD_none, toNat_limit]
    omega

theorem toNat_logEntry (topics dataBytes : UInt64) : (logEntry topics dataBytes).toNat =
    min (2 ^ 64 - 1) (375 + 375 * topics.toNat + 8 * dataBytes.toNat) := by
  have hlog : log.toNat = 375 := by decide
  have htopic : logTopic.toNat = 375 := by decide
  have hdata : logData.toNat = 8 := by decide
  unfold logEntry
  simp only [toNat_plus, toNat_times, hlog, htopic, hdata]
  omega

end Gas

/-! ## The law -/

/-- Bytes take as many words as are enough for them and no more. Keeping costs 200 and reading 50
for each word. A keepalive is told its price as long as the undiscounted one fits, and where a
price is not told, nobody can pay. More bytes never cost less. A log entry costs the sum of its
parts, at most the largest price. A ticket with calldata that fits a memory takes seven words and
those of its calldata. -/
theorem prices_are_exact_or_beyond_all_means :
    (∀ size : UInt64, (Gas.wordsForBytes size).toNat = wordsOf size.toNat ∧
      ∀ words, wordsOf size.toNat ≤ words ↔ size.toNat ≤ 32 * words) ∧
    Gas.PerWord 200 20000 Gas.keepalive ∧
    Gas.PerWord 50 50 Gas.redeemRead ∧
    (∀ topics dataBytes : UInt64, (Gas.logEntry topics dataBytes).toNat =
      min (2 ^ 64 - 1) (375 + 375 * topics.toNat + 8 * dataBytes.toNat)) ∧
    ∀ ticket : Ticket, ticket.calldata.length ≤ 2 ^ 63 - 1 →
      32 * (7 + wordsOf ticket.calldata.length) < 2 ^ 64 ∧
      ticket.sizeBytes.toNat = 32 * (7 + wordsOf ticket.calldata.length) ∧
      (Gas.wordsForBytes ticket.sizeBytes).toNat = 7 + wordsOf ticket.calldata.length := by
  refine ⟨fun size => ⟨Gas.toNat_wordsForBytes size, fun words => wordsOf_le_iff⟩,
    Gas.perWord_of_eq (by omega) Gas.keepalive_eq, Gas.perWord_of_eq (by omega) Gas.redeemRead_eq,
    Gas.toNat_logEntry, fun ticket hlength => ?_⟩
  have hfits : 32 * ticket.words < 2 ^ 64 := by
    unfold Ticket.words wordsOf
    omega
  refine ⟨hfits, Ticket.toNat_sizeBytes hfits, ?_⟩
  rw [Gas.toNat_wordsForBytes]
  exact Ticket.wordsOf_sizeBytes hfits

/-- A ticket with one byte of calldata takes eight words. -/
theorem one_byte_takes_an_eighth_word :
    let ticket := { Ticket.plain with calldata := [7] }
    ticket.calldata.length ≤ 2 ^ 63 - 1 ∧ ticket.sizeBytes.toNat = 256 ∧
      (Gas.wordsForBytes ticket.sizeBytes).toNat = 8 := by
  intro ticket
  obtain ⟨_, _, _, _, hsize⟩ := prices_are_exact_or_beyond_all_means
  have hlength : ticket.calldata.length ≤ 2 ^ 63 - 1 := by decide
  obtain ⟨_, hbytes, hwords⟩ := hsize ticket hlength
  exact ⟨hlength, hbytes.trans (by decide), hwords.trans (by decide)⟩

end RetryTickets
