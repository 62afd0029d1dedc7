-- Which texts spell which bytes: two hexadecimal digits for each byte, of either
-- case. Before they are read, texts are put into lower case and then into bytes;
-- neither step makes a digit of what is none.
import Mathlib.Data.List.Induction
import RetryTickets.Identifier.Reading

namespace RetryTickets

namespace Hex

/-- The digits of both cases, with their values. -/
def digits : List (Char × Nat) :=
  ['0', '1', '2', '3', '4', '5', '6', '7', '8', '9', 'a', 'b', 'c', 'd', 'e', 'f'].zipIdx ++
    ['0', '1', '2', '3', '4', '5', '6', '7', '8', '9', 'A', 'B', 'C', 'D', 'E', 'F'].zipIdx

/-- Digits that spell some bytes, two for each of them. -/
inductive Spells : List Char → Bytes → Prop
  | nil : Spells [] []
  | cons {high low : Char} {h l : Nat} {text : List Char} {bytes : Bytes}
      (hhigh : (high, h) ∈ digits) (hlow : (low, l) ∈ digits) (rest : Spells text bytes) :
      Spells (high :: low :: text) (UInt8.ofNat (16 * h + l) :: bytes)

variable {text : List Char} {b bytes : Bytes} {c : Char} {value : Nat}

theorem lt_of_digit (h : (c, value) ∈ digits) : value < 16 := by
  have hall : ∀ d ∈ digits, d.2 < 16 := by decide
  exact hall _ h

theorem Spells.digit (h : Spells text bytes) : ∀ c ∈ text, ∃ value, (c, value) ∈ digits := by
  induction h with
  | nil => exact nofun
  | cons hhigh hlow _ ih =>
    simp only [List.mem_cons, forall_eq_or_imp]
    exact ⟨⟨_, hhigh⟩, ⟨_, hlow⟩, ih⟩

theorem Spells.length (h : Spells text bytes) : text.length = 2 * bytes.length := by
  induction h with
  | nil => rfl
  | cons _ _ _ ih =>
    simp only [List.length_cons, ih]
    omega

/-! ## Digits in lower case -/

/-- The bytes of a character in lower case. -/
def lowerBytes (c : Char) : Bytes := Text.toBytes (Text.lowerChar c)

theorem toBytes_lower_cons (c : Char) (text : List Char) :
    Text.toBytes (Text.lower (c :: text)) = lowerBytes c ++ Text.toBytes (Text.lower text) := by
  simp [Text.toBytes, Text.lower, lowerBytes]

/-- A digit of either case is one byte, and that is a digit of the same value. -/
theorem lowerBytes_of_digit (h : (c, value) ∈ digits) :
    ∃ byte, lowerBytes c = [byte] ∧ digitValue? byte = some value := by
  have hall : ∀ d ∈ digits, (lowerBytes d.1).map digitValue? = [some d.2] := by decide +kernel
  have hone := hall _ h
  obtain ⟨byte, hbytes, hvalue⟩ := List.map_eq_singleton_iff.1 hone
  exact ⟨byte, hbytes, hvalue⟩

/-- The capitals of ASCII are one run. The others begin behind ASCII, and none of them comes down
to a digit. -/
theorem caseRuns_behind : ∀ run ∈ Text.caseRuns,
    run.first = 65 ∧ run.last = 90 ∨ 128 ≤ run.first ∧ 103 ≤ run.first + run.shift := by
  decide +kernel

/-- Below 128, all but the capitals are in lower case. -/
theorem lowerBytes_of_small (hsmall : c.toNat < 128) (hcapital : ¬ (65 ≤ c.toNat ∧ c.toNat ≤ 90)) :
    lowerBytes c = String.utf8EncodeChar c := by
  have hnone : Text.caseRuns.find? (·.covers c.toNat) = none := by
    rw [List.find?_eq_none]
    intro run hrun
    simp only [Text.CaseRun.covers, Bool.and_eq_true, decide_eq_true_eq]
    rcases caseRuns_behind run hrun with ⟨_, _⟩ | ⟨_, _⟩ <;> omega
  unfold lowerBytes Text.lowerChar
  rw [if_neg (by omega), hnone]
  exact List.flatMap_singleton _ _

/-- Below 128, what has the bytes of digits is a digit. -/
theorem digit_of_small (hsmall : c.toNat < 128) (h : ∀ byte ∈ lowerBytes c, digitValue? byte ≠ none) :
    ∃ value, (c, value) ∈ digits := by
  have hmem : c ∈ digits.map Prod.fst := by
    by_cases hcapital : 65 ≤ c.toNat ∧ c.toNat ≤ 90
    · have hall : ∀ n < 26,
          (∀ byte ∈ lowerBytes (Char.ofNat (65 + n)), digitValue? byte ≠ none) →
            Char.ofNat (65 + n) ∈ digits.map Prod.fst := by decide +kernel
      have hc := hall (c.toNat - 65) (by omega)
      rw [Nat.add_sub_of_le hcapital.1, Char.ofNat_toNat] at hc
      exact hc h
    · have hall : ∀ n < 128,
          (∀ byte ∈ String.utf8EncodeChar (Char.ofNat n), digitValue? byte ≠ none) →
            Char.ofNat n ∈ digits.map Prod.fst := by decide +kernel
      have hc := hall c.toNat hsmall
      rw [Char.ofNat_toNat, ← lowerBytes_of_small hsmall hcapital] at hc
      exact hc h
  obtain ⟨⟨_, value⟩, hdigit, rfl⟩ := List.mem_map.1 hmem
  exact ⟨value, hdigit⟩

/-- A byte from 103 on is no digit. -/
theorem digitValue?_of_le {byte : UInt8} (h : 103 ≤ byte.toNat) : digitValue? byte = none := by
  unfold digitValue?
  dsimp only
  rw [if_neg (by omega), if_neg (by omega), if_neg (by omega)]

theorem no_digit_of_head {n : Nat} {rest : Bytes} (h : 103 ≤ n % 256) :
    ∃ byte ∈ UInt8.ofNat n :: rest, digitValue? byte = none := by
  refine ⟨_, List.mem_cons_self, digitValue?_of_le ?_⟩
  rw [UInt8.toNat_ofNat']
  exact h

/-- What is written of a character from 103 on begins with no digit. -/
theorem no_digit_of_le (h : 103 ≤ c.toNat) :
    ∃ byte ∈ String.utf8EncodeChar c, digitValue? byte = none := by
  have hvalue : c.val.toNat = c.toNat := rfl
  unfold String.utf8EncodeChar
  dsimp only
  rw [hvalue]
  split
  · exact no_digit_of_head (by omega)
  · split
    · exact no_digit_of_head (by omega)
    · split
      · exact no_digit_of_head (by omega)
      · exact no_digit_of_head (by omega)

/-- A number that is no character stands for the first one. -/
theorem toNat_ofNat_or (n : Nat) : (Char.ofNat n).toNat = n ∨ Char.ofNat n = Char.ofNat 0 := by
  by_cases h : n.isValidChar
  · left
    rw [Char.ofNat, dif_pos h]
    rfl
  · right
    exact dif_neg h

/-- From 128 on, nothing has the bytes of digits. -/
theorem no_digit_of_large (hlarge : 128 ≤ c.toNat) : ∃ byte ∈ lowerBytes c, digitValue? byte = none := by
  unfold lowerBytes Text.lowerChar
  split
  · exact ⟨105, List.mem_cons_self, by decide⟩
  · split
    · rename_i run hfind
      have hcovers := List.find?_some hfind
      simp only [Text.CaseRun.covers, Bool.and_eq_true, decide_eq_true_eq] at hcovers
      obtain ⟨⟨hfirst, hlast⟩, _⟩ := hcovers
      have hhigh : 103 ≤ (c.toNat + run.shift).toNat := by
        rcases caseRuns_behind run (List.mem_of_find?_eq_some hfind) with ⟨_, _⟩ | ⟨_, _⟩ <;> omega
      rw [Text.toBytes, List.flatMap_singleton]
      rcases toNat_ofNat_or (c.toNat + run.shift).toNat with hsame | hzero
      · apply no_digit_of_le
        rw [hsame]
        exact hhigh
      · rw [hzero]
        exact ⟨0, List.mem_cons_self, by decide⟩
    · rw [Text.toBytes, List.flatMap_singleton]
      exact no_digit_of_le (by omega)

/-- What has the bytes of digits is a digit. -/
theorem digit_of_lowerBytes (h : ∀ byte ∈ lowerBytes c, digitValue? byte ≠ none) :
    ∃ value, (c, value) ∈ digits := by
  rcases Nat.lt_or_ge c.toNat 128 with hsmall | hlarge
  · exact digit_of_small hsmall h
  · obtain ⟨byte, hmem, hnone⟩ := no_digit_of_large hlarge
    exact absurd hnone (h byte hmem)

/-! ## Pairs of digits -/

/-- A pair is read before what follows it. -/
theorem decodePairs_cons_ok_iff {place : Nat} {high low : UInt8} :
    decodePairs place (high :: low :: b) = .ok bytes ↔
      ∃ h l tail, digitValue? high = some h ∧ digitValue? low = some l ∧
        decodePairs (place + 2) b = .ok tail ∧ UInt8.ofNat (16 * h + l) :: tail = bytes := by
  rw [decodePairs]
  unfold digitAt
  cases digitValue? high <;> cases digitValue? low <;> cases decodePairs (place + 2) b <;>
    simp [bind, Except.bind, pure, Except.pure]

/-- What is read are digits, two for each byte. -/
theorem digits_of_decodePairs {place : Nat} (h : decodePairs place b = .ok bytes) :
    b.length = 2 * bytes.length ∧ ∀ byte ∈ b, digitValue? byte ≠ none := by
  induction place, b using decodePairs.induct generalizing bytes with
  | case1 place =>
    cases h
    simp
  | case2 place byte => cases h
  | case3 place high low rest ih =>
    obtain ⟨high', low', tail, hhigh, hlow, hrest, rfl⟩ := decodePairs_cons_ok_iff.1 h
    obtain ⟨hlength, hdigits⟩ := ih hrest
    constructor
    · simp only [List.length_cons, hlength]
      omega
    · simp only [List.mem_cons, forall_eq_or_imp]
      exact ⟨by simp [hhigh], by simp [hlow], hdigits⟩

/-- An odd number of digits is no row of pairs, so that looking at the number first refuses
nothing else. -/
theorem decode_ok_iff : decode b = .ok bytes ↔ decodePairs 0 b = .ok bytes := by
  unfold decode
  split
  · rename_i hodd
    constructor
    · exact nofun
    · intro h
      have hlength := (digits_of_decodePairs h).1
      omega
  · exact Iff.rfl

/-! ## Reading texts in lower case -/

/-- Spelled bytes are read, whatever the case of the digits. -/
theorem Spells.decodePairs (h : Spells text bytes) (place : Nat) :
    decodePairs place (Text.toBytes (Text.lower text)) = .ok bytes := by
  induction h generalizing place with
  | nil => rfl
  | @cons high low h l text bytes hhigh hlow rest ih =>
    obtain ⟨highByte, hhighBytes, hhighValue⟩ := lowerBytes_of_digit hhigh
    obtain ⟨lowByte, hlowBytes, hlowValue⟩ := lowerBytes_of_digit hlow
    rw [toBytes_lower_cons, toBytes_lower_cons, hhighBytes, hlowBytes]
    exact decodePairs_cons_ok_iff.2 ⟨h, l, bytes, hhighValue, hlowValue, ih (place + 2), rfl⟩

/-- Every character of what is read is a digit. -/
theorem digit_of_decodePairs {place : Nat} (hmem : c ∈ text)
    (h : decodePairs place (Text.toBytes (Text.lower text)) = .ok bytes) :
    ∃ value, (c, value) ∈ digits := by
  apply digit_of_lowerBytes
  intro byte hbyte
  apply (digits_of_decodePairs h).2
  simp only [Text.toBytes, Text.lower, lowerBytes, List.mem_flatMap] at hbyte ⊢
  obtain ⟨c', hlower, hbyte⟩ := hbyte
  exact ⟨c', ⟨c, hmem, hlower⟩, hbyte⟩

/-- What is read are spelled bytes. -/
theorem spells_of_decodePairs {place : Nat}
    (h : decodePairs place (Text.toBytes (Text.lower text)) = .ok bytes) : Spells text bytes := by
  -- Two characters at a time, as they are read.
  induction text using List.twoStepInduction generalizing place bytes with
  | nil =>
    cases h
    exact .nil
  | singleton c =>
    obtain ⟨value, hdigit⟩ := digit_of_decodePairs List.mem_cons_self h
    obtain ⟨byte, hbyte, _⟩ := lowerBytes_of_digit hdigit
    rw [toBytes_lower_cons, hbyte] at h
    cases h
  | cons_cons high low text ih _ =>
    obtain ⟨hv, hhigh⟩ := digit_of_decodePairs List.mem_cons_self h
    obtain ⟨lv, hlow⟩ := digit_of_decodePairs (List.mem_cons_of_mem high List.mem_cons_self) h
    obtain ⟨highByte, hhighBytes, hhighValue⟩ := lowerBytes_of_digit hhigh
    obtain ⟨lowByte, hlowBytes, hlowValue⟩ := lowerBytes_of_digit hlow
    rw [toBytes_lower_cons, toBytes_lower_cons, hhighBytes, hlowBytes] at h
    obtain ⟨hv', lv', tail, hhigh', hlow', htail, rfl⟩ := decodePairs_cons_ok_iff.1 h
    rw [hhighValue, Option.some.injEq] at hhigh'
    rw [hlowValue, Option.some.injEq] at hlow'
    rw [← hhigh', ← hlow']
    exact .cons hhigh hlow (ih htail)

/-- A text put into lower case is read exactly if it spells bytes, and as those bytes. -/
theorem decode_lower_ok_iff :
    decode (Text.toBytes (Text.lower text)) = .ok bytes ↔ Spells text bytes := by
  rw [decode_ok_iff]
  constructor
  · exact spells_of_decodePairs
  · intro h
    exact h.decodePairs 0

/-! ## Written digits -/

/-- What a digit is written as is its lower case. -/
theorem toLower_eq_digit_iff (hvalue : value < 16) :
    c.toLower = digit value ↔ (c, value) ∈ digits := by
  constructor
  · have hsame : ∀ value < 16, (digit value, value) ∈ digits := by decide
    have hcapital : ∀ value < 16, 97 ≤ (digit value).toNat →
        (Char.ofNat ((digit value).toNat - 32), value) ∈ digits := by decide
    intro h
    unfold Char.toLower at h
    split at h
    · rename_i hrange
      have hfirst : 65 ≤ c.toNat := UInt32.le_iff_toNat_le.1 hrange.1
      have hlast : c.toNat ≤ 90 := UInt32.le_iff_toNat_le.1 hrange.2
      have hdigit : (digit value).toNat = c.toNat + 32 := by
        rw [← h]
        have hsum := UInt32.toNat_add c.val 32
        exact hsum.trans (Nat.mod_eq_of_lt (show c.toNat + 32 < 2 ^ 32 by omega))
      have hmem := hcapital value hvalue (by omega)
      rwa [hdigit, Nat.add_sub_cancel, Char.ofNat_toNat] at hmem
    · rw [h]
      exact hsame value hvalue
  · intro h
    have hall : ∀ d ∈ digits, d.1.toLower = digit d.2 := by decide
    exact hall _ h

theorem encode_cons (byte : UInt8) (b : Bytes) :
    encode (byte :: b) = digit (byte.toNat / 16) :: digit (byte.toNat % 16) :: encode b := rfl

/-- Bytes are written in lower case. -/
theorem toLower_encode (b : Bytes) : (encode b).map Char.toLower = encode b := by
  have hall : ∀ value < 16, (digit value).toLower = digit value := by decide
  induction b with
  | nil => rfl
  | cons byte b ih =>
    have hbyte := byte.toNat_lt
    rw [encode_cons, List.map_cons, List.map_cons, ih, hall _ (by omega), hall _ (by omega)]

/-- What spells bytes is how they are written, in any case of each digit. -/
theorem spells_iff_toLower : Spells text bytes ↔ text.map Char.toLower = encode bytes := by
  constructor
  · intro h
    induction h with
    | nil => rfl
    | @cons high low h l text bytes hhigh hlow rest ih =>
      have hh := lt_of_digit hhigh
      have hl := lt_of_digit hlow
      have hbyte : (UInt8.ofNat (16 * h + l)).toNat = 16 * h + l := by
        rw [UInt8.toNat_ofNat']
        omega
      rw [encode_cons, hbyte, show (16 * h + l) / 16 = h by omega,
        show (16 * h + l) % 16 = l by omega, ← (toLower_eq_digit_iff hh).2 hhigh,
        ← (toLower_eq_digit_iff hl).2 hlow, ← ih]
      rfl
  · intro h
    induction bytes generalizing text with
    | nil =>
      rw [List.map_eq_nil_iff.1 h]
      exact .nil
    | cons byte bytes ih =>
      have hbyte := byte.toNat_lt
      rw [encode_cons] at h
      obtain ⟨high, _, rfl, hhigh, h⟩ := List.map_eq_cons_iff.1 h
      obtain ⟨low, rest, rfl, hlow, h⟩ := List.map_eq_cons_iff.1 h
      rw [toLower_eq_digit_iff (by omega)] at hhigh hlow
      have hspells := Spells.cons hhigh hlow (ih h)
      rwa [Nat.div_add_mod, UInt8.ofNat_toNat] at hspells

end Hex

end RetryTickets
