-- Logs as rows of whole records, and what is read from bytes that end in the
-- middle of one. A length that is cut short is passed over when the log is
-- read, but swallows the next record that is put behind it.
import Mathlib.Algebra.Group.Nat.Defs
import RetryTickets.Event.Record

namespace RetryTickets

namespace Bytes

theorem ofLittle_little (width value : Nat) :
    ofLittle (little width value) = value % 256 ^ width := by
  induction width generalizing value with
  | zero => simp [little, ofLittle, Nat.mod_one]
  | succ width ih =>
    have h : 256 ^ (width + 1) = 256 * 256 ^ width := by rw [Nat.pow_succ, Nat.mul_comm]
    rw [h, Nat.mod_mul]
    simp [little, ofLittle, ih]

theorem ofLittle_lt (b : Bytes) : ofLittle b < 256 ^ b.length := by
  induction b with
  | nil => simp [ofLittle]
  | cons digit rest ih =>
    have := digit.toNat_lt
    simp only [ofLittle, List.length_cons, Nat.pow_succ]
    omega

theorem ofLittle_append (a b : Bytes) :
    ofLittle (a ++ b) = ofLittle a + 256 ^ a.length * ofLittle b := by
  induction a with
  | nil => simp [ofLittle]
  | cons digit rest ih =>
    simp only [List.cons_append, ofLittle, ih, List.length_cons, Nat.pow_succ, Nat.mul_add]
    rw [← Nat.add_assoc, Nat.mul_comm (256 ^ rest.length) 256, Nat.mul_assoc]

theorem ofLittle_zeros (n : Nat) : ofLittle (List.replicate n 0) = 0 := by
  induction n with
  | zero => rfl
  | succ n ih => simp [List.replicate_succ, ofLittle, ih]

theorem little_zero (width : Nat) : little width 0 = List.replicate width 0 := by
  induction width with
  | zero => rfl
  | succ width ih => simp [little, ih, List.replicate_succ]

/-- A number below 256 is one digit with zeros behind it. -/
theorem little_of_lt {n : Nat} (h : n < 256) (width : Nat) :
    little (width + 1) n = UInt8.ofNat n :: List.replicate width 0 := by
  simp [little, Nat.mod_eq_of_lt h, Nat.div_eq_of_lt h, little_zero]

theorem ofLittle_little_of_lt {width value : Nat} (h : value < 256 ^ width) :
    ofLittle (little width value) = value := by
  rw [ofLittle_little, Nat.mod_eq_of_lt h]

theorem split?_little (width value : Nat) (rest : Bytes) :
    split? width (little width value ++ rest) = some (little width value, rest) :=
  split?_eq_some_iff.2 ⟨length_little width value, rfl⟩

theorem word64?_ofWord64 (n : UInt64) (rest : Bytes) :
    word64? (ofWord64 n ++ rest) = some (n, rest) := by
  have hfit : n.toNat < 256 ^ 8 := n.toNat_lt
  unfold word64? ofWord64
  simp [split?_little, ofLittle_little_of_lt hfit]

end Bytes

namespace Event

/-! ## One event, written and read -/

theorem all_number (kind : EventKind) : EventKind.all[kind.number]? = some kind := by
  cases kind <;> rfl

theorem ofFields?_written (event : Event) :
    ofFields? event.kind (event.ticket.toBytes ++ event.details) = some event := by
  cases event with
  | created id => simp [ofFields?, kind, ticket, FixedBytes.read?_append]
  | extended id timeout =>
    have hword := Bytes.word64?_ofWord64 timeout []
    rw [List.append_nil] at hword
    simp [ofFields?, kind, ticket, details, FixedBytes.read?_append, hword]
  | scheduled id retry sequence donated donor =>
    have hdonor := FixedBytes.read?_append donor []
    rw [List.append_nil] at hdonor
    simp [ofFields?, kind, ticket, details, FixedBytes.read?_append, Bytes.word64?_ofWord64, hdonor]
  | redeemed id => simp [ofFields?, kind, ticket, FixedBytes.read?_append]
  | canceled id => simp [ofFields?, kind, ticket, FixedBytes.read?_append]

/-- An event is read from its payload. -/
theorem ofPayload_payload (event : Event) : ofPayload event.payload = .ok event := by
  have hnumber : event.kind.number < 256 ^ 4 := by
    cases event.kind <;> decide
  unfold ofPayload payload
  rw [List.append_assoc, Bytes.split?_little]
  simp only [Bytes.ofLittle_little_of_lt hnumber, all_number, ofFields?_written]

/-- Payloads are short, and never so short that a piece of a length could stand for one. -/
theorem length_payload (event : Event) : 8 ≤ event.payload.length ∧ event.payload.length ≤ 104 := by
  cases event <;> simp [payload, details, Bytes.ofWord64, ticket, FixedBytes.length_eq]

/-! ## Rows of records -/

/-- Bytes that are a row of whole records, one for each of these events. -/
inductive Framed : Bytes → List Event → Prop
  | nil : Framed [] []
  | cons {payload rest : Bytes} {event : Event} {events : List Event}
      (short : payload.length < endlessLength) (reads : ofPayload payload = .ok event)
      (later : Framed rest events) :
      Framed (Bytes.little 8 payload.length ++ payload ++ rest) (event :: events)

theorem framed_record (event : Event) : Framed event.record [event] := by
  have hshort : event.payload.length < endlessLength := by
    have := event.length_payload
    have : 104 < endlessLength := by decide
    omega
  have h := Framed.cons hshort event.ofPayload_payload .nil
  rwa [List.append_nil] at h

theorem Framed.append {a b : Bytes} {events later : List Event} (ha : Framed a events)
    (hb : Framed b later) : Framed (a ++ b) (events ++ later) := by
  induction ha with
  | nil => exact hb
  | cons short reads _ ih =>
    rw [List.append_assoc]
    exact .cons short reads ih

theorem framed_records (events : List Event) : Framed (events.flatMap record) events := by
  induction events with
  | nil => exact .nil
  | cons event events ih => exact (framed_record event).append ih

/-! ## Reading a log -/

/-- A log is read record by record. -/
theorem ofRecords_eq (b : Bytes) :
    ofRecords b = match Bytes.split? 8 b with
      | none => .ok []
      | some (front, rest) =>
        if endlessLength ≤ Bytes.ofLittle front then
          .error (.endlessEvent (Bytes.ofLittle front))
        else match Bytes.split? (Bytes.ofLittle front) rest with
          | none => .error .tornEvent
          | some (payload, later) =>
            match ofPayload payload with
            | .error fault => .error (.badEvent fault)
            | .ok event => (ofRecords later).map (event :: ·) := by
  rw [ofRecords]
  split
  · rename_i hsplit
    rw [hsplit]
  · rename_i hsplit
    rw [hsplit]
    dsimp only
    split
    · rfl
    · split
      · rename_i hpayload
        rw [hpayload]
      · rename_i payload later hpayload
        rw [hpayload]
        dsimp only
        cases ofPayload payload with
        | error fault => rfl
        | ok event => cases ofRecords later <;> rfl

theorem ofRecords_short {b : Bytes} (h : b.length < 8) : ofRecords b = .ok [] := by
  rw [ofRecords_eq, Bytes.split?_eq_none_iff.2 h]

/-- A whole record is one event more. -/
theorem ofRecords_record {payload : Bytes} {event : Event} (short : payload.length < endlessLength)
    (reads : ofPayload payload = .ok event) (rest : Bytes) :
    ofRecords (Bytes.little 8 payload.length ++ payload ++ rest) =
      (ofRecords rest).map (event :: ·) := by
  have hfit : payload.length < 256 ^ 8 := Nat.lt_trans short (by decide)
  rw [ofRecords_eq, List.append_assoc, Bytes.split?_little]
  simp only [Bytes.ofLittle_little_of_lt hfit, Nat.not_le.2 short, if_false, Bytes.split?_append,
    reads]

/-- A length that promises more than there is tears the log. -/
theorem ofRecords_torn {front rest : Bytes} (hfront : front.length = 8)
    (hlength : Bytes.ofLittle front < endlessLength) (hrest : rest.length < Bytes.ofLittle front) :
    ofRecords (front ++ rest) = .error .tornEvent := by
  have hsplit : Bytes.split? 8 (front ++ rest) = some (front, rest) :=
    Bytes.split?_eq_some_iff.2 ⟨hfront, rfl⟩
  rw [ofRecords_eq, hsplit]
  simp only [Nat.not_le.2 hlength, if_false, Bytes.split?_eq_none_iff.2 hrest]

/-- Whole records at the front are read, and then what follows them. -/
theorem Framed.ofRecords_append {whole : Bytes} {events : List Event} (h : Framed whole events)
    (rest : Bytes) : ofRecords (whole ++ rest) = (ofRecords rest).map (events ++ ·) := by
  induction h with
  | nil =>
    rw [List.nil_append]
    cases ofRecords rest <;> rfl
  | cons short reads _ ih =>
    rw [List.append_assoc, ofRecords_record short reads, ih]
    cases ofRecords rest <;> rfl

theorem Framed.ofRecords {whole : Bytes} {events : List Event} (h : Framed whole events) :
    ofRecords whole = .ok events := by
  have hread := h.ofRecords_append []
  have hnone : ([] : Bytes).length < 8 := by decide
  rw [List.append_nil, ofRecords_short hnone] at hread
  simpa [Except.map] using hread

/-- What is read of a log is a row of whole records, and no more than a piece of a length is
left behind them. -/
theorem ofRecords_ok_iff {b : Bytes} {events : List Event} :
    Event.ofRecords b = .ok events ↔
      ∃ whole tail, b = whole ++ tail ∧ Framed whole events ∧ tail.length < 8 := by
  constructor
  · intro h
    fun_induction Event.ofRecords b generalizing events with
    | case1 b hsplit =>
      cases h
      exact ⟨[], b, rfl, .nil, Bytes.split?_eq_none_iff.1 hsplit⟩
    | case2 => cases h
    | case3 => cases h
    | case4 => cases h
    | case5 => cases h
    | case6 b front rest hfront length hshort payload later hpayload event hreads found hlater =>
      rename_i ih
      cases h
      obtain ⟨whole, tail, rfl, hframed, htail⟩ := ih hlater
      obtain ⟨h8, rfl⟩ := Bytes.split?_eq_some_iff.1 hfront
      obtain ⟨hlength, rfl⟩ := Bytes.split?_eq_some_iff.1 hpayload
      have hwritten : front = Bytes.little 8 payload.length := by
        rw [hlength, ← h8]
        exact (Bytes.little_ofLittle front).symm
      refine ⟨Bytes.little 8 payload.length ++ payload ++ whole, tail, ?_, .cons ?_ hreads hframed, htail⟩
      · rw [hwritten]
        simp
      · omega
  · rintro ⟨whole, tail, rfl, hframed, htail⟩
    rw [hframed.ofRecords_append, ofRecords_short htail]
    simp [Except.map]

/-! ## A log that was cut short -/

/-- A piece of a length and the record behind it read as a length that nothing can meet: the
record's own length has moved up in it by at least one digit. -/
theorem ofRecords_piece_append_record {piece : Bytes} (hpiece : piece ≠ []) (hshort : piece.length < 8)
    (event : Event) : Event.ofRecords (piece ++ event.record) = .error .tornEvent := by
  obtain ⟨_, hsmall⟩ := event.length_payload
  have hlength : Bytes.little 8 event.payload.length =
      (UInt8.ofNat event.payload.length :: List.replicate (7 - piece.length) 0) ++
        List.replicate piece.length 0 := by
    have hzeros : 7 = 7 - piece.length + piece.length := by omega
    rw [Bytes.little_of_lt (by omega) 7, List.cons_append, List.replicate_append_replicate, ← hzeros]
  have hmoved : Bytes.ofLittle (piece ++ UInt8.ofNat event.payload.length ::
      List.replicate (7 - piece.length) 0) =
        Bytes.ofLittle piece + 256 ^ piece.length * event.payload.length := by
    have hdigit : (UInt8.ofNat event.payload.length).toNat = event.payload.length := by
      simp only [UInt8.toNat_ofNat']
      omega
    rw [Bytes.ofLittle_append]
    simp only [Bytes.ofLittle, Bytes.ofLittle_zeros, hdigit, Nat.mul_zero, Nat.add_zero]
  have hsplit : piece ++ event.record =
      (piece ++ UInt8.ofNat event.payload.length :: List.replicate (7 - piece.length) 0) ++
        (List.replicate piece.length 0 ++ event.payload) := by
    unfold record
    rw [hlength]
    simp only [List.append_assoc]
  have hlow : 256 ≤ 256 ^ piece.length := by
    have hpos : 0 < piece.length := List.length_pos_iff.2 hpiece
    exact Nat.pow_le_pow_right (n := 256) (by decide) hpos
  have hhigh : 256 ^ piece.length ≤ 256 ^ 7 := Nat.pow_le_pow_right (by decide) (by omega)
  have hvalue := Bytes.ofLittle_lt piece
  rw [hsplit]
  apply ofRecords_torn
  · simp
    omega
  · rw [hmoved]
    have hbound : 256 ^ 7 * 105 < endlessLength := by decide
    have hprod : 256 ^ piece.length * event.payload.length ≤ 256 ^ 7 * 104 :=
      Nat.mul_le_mul hhigh hsmall
    omega
  · rw [hmoved]
    have hprod : 256 * event.payload.length ≤ 256 ^ piece.length * event.payload.length :=
      Nat.mul_le_mul_right _ hlow
    simp only [List.length_append, List.length_replicate]
    omega

/-- A record behind what is read of a log is read as one event more, if nothing is left over
between them. If a piece of a length is left, nothing can be read any more. -/
theorem ofRecords_append_record {b : Bytes} {events : List Event}
    (h : Event.ofRecords b = .ok events) (event : Event) :
    (Framed b events ∧ Event.ofRecords (b ++ event.record) = .ok (events ++ [event])) ∨
      (¬ Framed b events ∧ Event.ofRecords (b ++ event.record) = .error .tornEvent) := by
  obtain ⟨whole, tail, rfl, hframed, htail⟩ := ofRecords_ok_iff.1 h
  by_cases hnil : tail = []
  · subst hnil
    rw [List.append_nil]
    exact Or.inl ⟨hframed, (hframed.append (framed_record event)).ofRecords⟩
  · have htorn : Event.ofRecords (whole ++ tail ++ event.record) = .error .tornEvent := by
      rw [List.append_assoc, hframed.ofRecords_append,
        ofRecords_piece_append_record hnil htail event]
      rfl
    refine Or.inr ⟨fun hall => ?_, htorn⟩
    rw [(hall.append (framed_record event)).ofRecords] at htorn
    cases htorn

end Event

end RetryTickets
