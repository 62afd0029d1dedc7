-- What bytes are a log. Its records, one behind the other, each as long as its
-- length says and with an event at the front of its payload, and at most a piece
-- of a length at the end: all this is read, and nothing else is.
import Mathlib.Data.List.Forall2
import RetryTickets.Proofs.Appends

namespace RetryTickets

/-! ## At the front of the bytes -/

namespace Bytes

/-- Every few bytes are the written form of one number. -/
theorem split?_eq_some_iff_little {width : Nat} {b front rest : Bytes} :
    split? width b = some (front, rest) ↔
      ∃ value < 256 ^ width, front = little width value ∧ b = little width value ++ rest := by
  rw [split?_eq_some_iff]
  constructor
  · rintro ⟨rfl, rfl⟩
    exact ⟨ofLittle front, ofLittle_lt front, (little_ofLittle front).symm, by rw [little_ofLittle]⟩
  · rintro ⟨value, _, rfl, rfl⟩
    exact ⟨length_little width value, rfl⟩

/-- There is a number at the front of the bytes, or there are too few of them. -/
theorem short_or_little (width : Nat) (b : Bytes) :
    b.length < width ∨ ∃ value < 256 ^ width, ∃ rest, b = little width value ++ rest := by
  cases h : split? width b with
  | none => exact Or.inl (split?_eq_none_iff.1 h)
  | some pieces =>
    obtain ⟨value, hvalue, _, hb⟩ := split?_eq_some_iff_little.1 h
    exact Or.inr ⟨value, hvalue, _, hb⟩

theorem word64?_eq_some_iff {b rest : Bytes} {n : UInt64} :
    word64? b = some (n, rest) ↔ b = ofWord64 n ++ rest := by
  constructor
  · intro h
    obtain ⟨⟨front, tail⟩, hsplit, hread⟩ := Option.map_eq_some_iff.1 h
    obtain ⟨value, hvalue, rfl, rfl⟩ := split?_eq_some_iff_little.1 hsplit
    obtain ⟨rfl, rfl⟩ := Prod.mk.inj hread
    have hnumber : value < UInt64.size := hvalue
    rw [ofLittle_little_of_lt hvalue, ofWord64, UInt64.toNat_ofNat_of_lt' hnumber]
  · rintro rfl
    exact word64?_ofWord64 n rest

@[simp] theorem length_ofWord64 (n : UInt64) : (ofWord64 n).length = 8 := length_little 8 n.toNat

end Bytes

/-! ## Too few bytes -/

section TooFew

variable {α : Type} {width : Nat} {b : Bytes}

/-- What is read behind a number fails on too few bytes, and so does the whole. -/
theorem Bytes.bind_word64?_eq_none_iff {next : UInt64 × Bytes → Option α}
    (h : ∀ n rest, next (n, rest) = none ↔ rest.length < width) :
    (Bytes.word64? b).bind next = none ↔ b.length < 8 + width := by
  cases hread : Bytes.word64? b with
  | none =>
    rw [Bytes.word64?, Option.map_eq_none_iff, Bytes.split?_eq_none_iff] at hread
    exact iff_of_true rfl (by omega)
  | some found =>
    have hlength := congrArg List.length (Bytes.word64?_eq_some_iff.1 hread)
    rw [List.length_append, Bytes.length_ofWord64] at hlength
    rw [Option.bind_some, h]
    omega

/-- What is read behind a fixed string fails on too few bytes, and so does the whole. -/
theorem FixedBytes.bind_read?_eq_none_iff {size : Nat} {next : FixedBytes size × Bytes → Option α}
    (h : ∀ name rest, next (name, rest) = none ↔ rest.length < width) :
    (FixedBytes.read? size b).bind next = none ↔ b.length < size + width := by
  cases hread : FixedBytes.read? size b with
  | none =>
    have hshort : b.length < size := by
      by_contra hlong
      have hlength : (b.take size).length = size := List.length_take_of_le (Nat.not_lt.1 hlong)
      have hfound := FixedBytes.read?_append ⟨b.take size, hlength⟩ (b.drop size)
      rw [List.take_append_drop, hread] at hfound
      cases hfound
    exact iff_of_true rfl (by omega)
  | some found =>
    have hlength := congrArg List.length (FixedBytes.read?_eq_some_iff.1 hread)
    rw [List.length_append, found.1.length_eq] at hlength
    rw [Option.bind_some, h]
    omega

end TooFew

/-- How many bytes the ticket and the details of an event take. -/
def EventKind.width : EventKind → Nat
  | created => 32
  | extended => 32 + 8
  | scheduled => 32 + 32 + 8 + 8 + 20
  | redeemed => 32
  | canceled => 32

namespace Event

variable {b : Bytes} {kind : EventKind} {event : Event}

/-! ## Fields -/

/-- Of the bytes that follow an event of its kind, none is looked at. -/
theorem ofFields?_eq_some_iff :
    ofFields? kind b = some event ↔
      event.kind = kind ∧ ∃ more, b = event.ticket.toBytes ++ event.details ++ more := by
  constructor
  · intro h
    cases kind <;>
      simp only [ofFields?, Option.bind_eq_bind, Option.bind_eq_some_iff, Prod.exists,
        FixedBytes.read?_eq_some_iff, Bytes.word64?_eq_some_iff, Option.pure_def,
        Option.some.injEq] at h
    case extended =>
      obtain ⟨ticket, _, rfl, timeout, more, rfl, rfl⟩ := h
      exact ⟨rfl, more, by simp [Event.ticket, details]⟩
    case scheduled =>
      obtain ⟨ticket, _, rfl, retry, _, rfl, sequence, _, rfl, donated, _, rfl, donor, more, rfl, rfl⟩ := h
      exact ⟨rfl, more, by simp [Event.ticket, details]⟩
    all_goals
      obtain ⟨ticket, more, rfl, rfl⟩ := h
      exact ⟨rfl, more, by simp [Event.ticket, details]⟩
  · rintro ⟨rfl, more, rfl⟩
    cases event <;>
      simp [ofFields?, Event.kind, Event.ticket, details, FixedBytes.read?_append,
        Bytes.word64?_ofWord64]

/-- Only too few bytes hold no event of a kind. -/
theorem ofFields?_eq_none_iff : ofFields? kind b = none ↔ b.length < kind.width := by
  -- Behind the last field nothing more is needed.
  have hdone : ∀ (event : Event) (rest : Bytes), some event = none ↔ rest.length < 0 := by simp
  cases kind with
  | extended =>
    show _ ↔ b.length < 32 + (8 + 0)
    exact FixedBytes.bind_read?_eq_none_iff fun _ _ => Bytes.bind_word64?_eq_none_iff fun _ => hdone _
  | scheduled =>
    show _ ↔ b.length < 32 + (32 + (8 + (8 + (20 + 0))))
    exact FixedBytes.bind_read?_eq_none_iff fun _ _ => FixedBytes.bind_read?_eq_none_iff fun _ _ =>
      Bytes.bind_word64?_eq_none_iff fun _ _ => Bytes.bind_word64?_eq_none_iff fun _ _ =>
        FixedBytes.bind_read?_eq_none_iff fun _ => hdone _
  | created | redeemed | canceled =>
    show _ ↔ b.length < 32 + 0
    exact FixedBytes.bind_read?_eq_none_iff fun _ => hdone _

/-! ## Payloads -/

theorem all_eq_none_iff {number : Nat} : EventKind.all[number]? = none ↔ 5 ≤ number :=
  List.getElem?_eq_none_iff

theorem all_eq_some_iff {number : Nat} : EventKind.all[number]? = some kind ↔ kind.number = number := by
  constructor
  · intro h
    rcases number with _ | _ | _ | _ | _ | number
    · cases h
      rfl
    · cases h
      rfl
    · cases h
      rfl
    · cases h
      rfl
    · cases h
      rfl
    · cases h
  · rintro rfl
    exact all_number kind

/-- Payloads are read from the number of a kind. -/
theorem ofPayload_little {number : Nat} (h : number < 256 ^ 4) (rest : Bytes) :
    ofPayload (Bytes.little 4 number ++ rest) =
      match EventKind.all[number]? with
      | none => .error (.unknownKind number)
      | some kind =>
        match ofFields? kind rest with
        | none => .error .endOfData
        | some event => .ok event := by
  cases hkind : EventKind.all[number]? with
  | none => simp only [ofPayload, Bytes.split?_little, Bytes.ofLittle_little_of_lt h, hkind]
  | some kind =>
    cases hfields : ofFields? kind rest <;>
      simp only [ofPayload, Bytes.split?_little, Bytes.ofLittle_little_of_lt h, hkind, hfields]

theorem number_lt (kind : EventKind) : kind.number < 256 ^ 4 := by
  cases kind <;> decide

/-- A payload is read as the event it begins with. -/
theorem ofPayload_ok_iff {payload : Bytes} :
    ofPayload payload = .ok event ↔ ∃ more, payload = event.payload ++ more := by
  constructor
  · intro h
    rcases Bytes.short_or_little 4 payload with hshort | ⟨number, hnumber, rest, rfl⟩
    · rw [ofPayload, Bytes.split?_eq_none_iff.2 hshort] at h
      cases h
    rw [ofPayload_little hnumber] at h
    split at h
    · cases h
    · rename_i kind hkind
      split at h
      · cases h
      · rename_i found hfound
        cases h
        obtain ⟨rfl, more, rfl⟩ := ofFields?_eq_some_iff.1 hfound
        exact ⟨more, by simp [Event.payload, all_eq_some_iff.1 hkind]⟩
  · rintro ⟨more, rfl⟩
    have hfields : ofFields? event.kind (event.ticket.toBytes ++ event.details ++ more) = some event :=
      ofFields?_eq_some_iff.2 ⟨rfl, more, rfl⟩
    simp only [Event.payload, List.append_assoc] at hfields ⊢
    simp only [ofPayload_little (number_lt event.kind), all_number, hfields]

/-- Payloads that begin with no event, and what is wrong with them. -/
inductive Unread : Bytes → DecodeFault → Prop
  /-- The number of the kind is cut short. -/
  | noNumber {payload : Bytes} (short : payload.length < 4) : Unread payload .endOfData
  /-- No kind has the number. -/
  | noKind {number : Nat} {rest : Bytes} (above : 5 ≤ number) (fits : number < 256 ^ 4) :
      Unread (Bytes.little 4 number ++ rest) (.unknownKind number)
  /-- The ticket or the details are cut short. -/
  | noFields {kind : EventKind} {rest : Bytes} (short : rest.length < kind.width) :
      Unread (Bytes.little 4 kind.number ++ rest) .endOfData

theorem ofPayload_error_iff {payload : Bytes} {fault : DecodeFault} :
    ofPayload payload = .error fault ↔ Unread payload fault := by
  constructor
  · intro h
    rcases Bytes.short_or_little 4 payload with hshort | ⟨number, hnumber, rest, rfl⟩
    · rw [ofPayload, Bytes.split?_eq_none_iff.2 hshort] at h
      cases h
      exact .noNumber hshort
    rw [ofPayload_little hnumber] at h
    split at h
    · rename_i hkind
      cases h
      exact .noKind (all_eq_none_iff.1 hkind) hnumber
    · rename_i kind hkind
      split at h
      · rename_i hfields
        cases h
        rw [← all_eq_some_iff.1 hkind]
        exact .noFields (ofFields?_eq_none_iff.1 hfields)
      · cases h
  · rintro (hshort | ⟨habove, hfits⟩ | hshort)
    · rw [ofPayload, Bytes.split?_eq_none_iff.2 hshort]
    · rw [ofPayload_little hfits, all_eq_none_iff.2 habove]
    · rename_i kind rest
      rw [ofPayload_little (number_lt kind), all_number]
      dsimp only
      rw [ofFields?_eq_none_iff.2 hshort]

/-! ## Records -/

/-- An event in a record of its own: a length and as many bytes, with the event at their front.
What follows it there is not looked at. -/
def StandsIn (event : Event) (record : Bytes) : Prop :=
  ∃ more, (event.payload ++ more).length < endlessLength ∧
    record = Bytes.little 8 (event.payload ++ more).length ++ (event.payload ++ more)

theorem framed_iff {events : List Event} :
    Framed b events ↔ ∃ records, b = records.flatten ∧ List.Forall₂ StandsIn events records := by
  constructor
  · intro h
    induction h with
    | nil => exact ⟨[], rfl, .nil⟩
    | cons short reads _ ih =>
      obtain ⟨records, rfl, hrecords⟩ := ih
      obtain ⟨more, rfl⟩ := ofPayload_ok_iff.1 reads
      exact ⟨_ :: records, rfl, .cons ⟨more, short, rfl⟩ hrecords⟩
  · rintro ⟨records, rfl, hrecords⟩
    induction hrecords with
    | nil => exact .nil
    | cons hrecord _ ih =>
      obtain ⟨more, short, rfl⟩ := hrecord
      rw [List.flatten_cons]
      exact .cons short (ofPayload_ok_iff.2 ⟨more, rfl⟩) ih

/-- What is wrong where no record can be read, though there is more than a piece of a length. -/
inductive Broken : Bytes → StateFault → Prop
  /-- No memory holds as many bytes as the length says. -/
  | endless {length : Nat} {rest : Bytes} (long : endlessLength ≤ length) (fits : length < 256 ^ 8) :
      Broken (Bytes.little 8 length ++ rest) (.endlessEvent length)
  /-- There are fewer bytes than the length says. -/
  | torn {length : Nat} {rest : Bytes} (ends : length < endlessLength) (short : rest.length < length) :
      Broken (Bytes.little 8 length ++ rest) .tornEvent
  /-- The payload begins with no event. -/
  | unread {payload rest : Bytes} {fault : DecodeFault} (ends : payload.length < endlessLength)
      (bad : Unread payload fault) :
      Broken (Bytes.little 8 payload.length ++ payload ++ rest) (.badEvent fault)

theorem Broken.ofRecords {fault : StateFault} (h : Broken b fault) : ofRecords b = .error fault := by
  rcases h with ⟨hlong, hfits⟩ | ⟨hends, hshort⟩ | ⟨hends, hbad⟩
  · rw [ofRecords_eq, Bytes.split?_little]
    simp only [Bytes.ofLittle_little_of_lt hfits, hlong, if_true]
  · rename_i length rest
    have hfits : length < 256 ^ 8 := Nat.lt_trans hends (by decide)
    have hlength := Bytes.ofLittle_little_of_lt hfits
    exact ofRecords_torn (Bytes.length_little 8 length) (hlength.symm ▸ hends) (hlength.symm ▸ hshort)
  · rename_i payload rest fault
    have hfits : payload.length < 256 ^ 8 := Nat.lt_trans hends (by decide)
    rw [ofRecords_eq, List.append_assoc, Bytes.split?_little]
    simp only [Bytes.ofLittle_little_of_lt hfits, Nat.not_le.2 hends, if_false, Bytes.split?_append,
      ofPayload_error_iff.2 hbad]

/-- A length and a payload that were split off stood at the front. -/
theorem eq_of_split {front rest payload later : Bytes} (hfront : Bytes.split? 8 b = some (front, rest))
    (hpayload : Bytes.split? (Bytes.ofLittle front) rest = some (payload, later)) :
    payload.length = Bytes.ofLittle front ∧ b = Bytes.little 8 payload.length ++ payload ++ later := by
  obtain ⟨value, hfits, rfl, rfl⟩ := Bytes.split?_eq_some_iff_little.1 hfront
  obtain ⟨hlength, rfl⟩ := Bytes.split?_eq_some_iff.1 hpayload
  refine ⟨hlength, ?_⟩
  rw [hlength, Bytes.ofLittle_little_of_lt hfits, List.append_assoc]

/-- A log is refused where the first record that cannot be read begins. -/
theorem ofRecords_error_iff {fault : StateFault} :
    Event.ofRecords b = .error fault ↔
      ∃ whole events rest, b = whole ++ rest ∧ Framed whole events ∧ Broken rest fault := by
  constructor
  · intro h
    fun_induction Event.ofRecords b with
    | case1 => cases h
    | case2 b front rest hfront length hlong =>
      cases h
      obtain ⟨value, hfits, rfl, rfl⟩ := Bytes.split?_eq_some_iff_little.1 hfront
      refine ⟨[], [], _, rfl, .nil, ?_⟩
      simp only [length, Bytes.ofLittle_little_of_lt hfits] at hlong ⊢
      exact .endless hlong hfits
    | case3 b front rest hfront length hends hpayload =>
      cases h
      obtain ⟨value, hfits, rfl, rfl⟩ := Bytes.split?_eq_some_iff_little.1 hfront
      simp only [length, Bytes.ofLittle_little_of_lt hfits] at hends hpayload
      exact ⟨[], [], _, rfl, .nil, .torn (Nat.not_le.1 hends) (Bytes.split?_eq_none_iff.1 hpayload)⟩
    | case4 b front rest hfront length hends payload later hpayload fault' hbad =>
      cases h
      obtain ⟨hlength, rfl⟩ := eq_of_split hfront hpayload
      have hshort : payload.length < endlessLength := hlength.symm ▸ Nat.not_le.1 hends
      exact ⟨[], [], _, (List.nil_append _).symm, .nil, .unread hshort (ofPayload_error_iff.1 hbad)⟩
    | case5 b front rest hfront length hends payload later hpayload event hreads fault' hlater ih =>
      cases h
      obtain ⟨hlength, rfl⟩ := eq_of_split hfront hpayload
      have hshort : payload.length < endlessLength := hlength.symm ▸ Nat.not_le.1 hends
      obtain ⟨whole, events, rest, rfl, hframed, hbroken⟩ := ih hlater
      exact ⟨_, _, rest, (List.append_assoc _ _ _).symm, .cons hshort hreads hframed, hbroken⟩
    | case6 => cases h
  · rintro ⟨whole, events, rest, rfl, hframed, hbroken⟩
    rw [hframed.ofRecords_append, hbroken.ofRecords]
    rfl

/-! ## Whole logs -/

/-- A log of events: a record of each, one behind the other, and no more than a piece of a
length at the end. -/
def Logged (content : Bytes) (events : List Event) : Prop :=
  ∃ records tail, content = records.flatten ++ tail ∧ List.Forall₂ StandsIn events records ∧
    tail.length ≤ 7

/-- No log: behind some records there is something wrong. -/
def Refused (content : Bytes) (fault : StateFault) : Prop :=
  ∃ events records rest, content = records.flatten ++ rest ∧ List.Forall₂ StandsIn events records ∧
    Broken rest fault

theorem ofRecords_ok_iff_logged {events : List Event} :
    Event.ofRecords b = .ok events ↔ Logged b events := by
  rw [ofRecords_ok_iff]
  constructor
  · rintro ⟨whole, tail, rfl, hframed, htail⟩
    obtain ⟨records, rfl, hrecords⟩ := framed_iff.1 hframed
    exact ⟨records, tail, rfl, hrecords, Nat.le_of_lt_succ htail⟩
  · rintro ⟨records, tail, rfl, hrecords, htail⟩
    exact ⟨_, tail, rfl, framed_iff.2 ⟨records, rfl, hrecords⟩, Nat.lt_succ_of_le htail⟩

theorem ofRecords_error_iff_refused {fault : StateFault} :
    Event.ofRecords b = .error fault ↔ Refused b fault := by
  rw [ofRecords_error_iff]
  constructor
  · rintro ⟨whole, events, rest, rfl, hframed, hbroken⟩
    obtain ⟨records, rfl, hrecords⟩ := framed_iff.1 hframed
    exact ⟨events, records, rest, rfl, hrecords, hbroken⟩
  · rintro ⟨events, records, rest, rfl, hrecords, hbroken⟩
    exact ⟨_, events, rest, rfl, framed_iff.2 ⟨records, rfl, hrecords⟩, hbroken⟩

end Event

section Reading

variable {storage : Storage} {disk : Disk} {content : Bytes}

/-- Whatever bytes the log has, they are read as the events of its records if they are a log, and
refused for what is wrong with them if they are not. No bytes are a log of two lists of events. -/
theorem a_log_is_read_as_its_records_or_refused (h : disk.read storage.events = .ok content) :
    (∀ events, disk.run storage.loadEvents = (.ok events, disk) ↔ Event.Logged content events) ∧
      (∀ error, disk.run storage.loadEvents = (.error error, disk) ↔
        ∃ fault, error = .state fault ∧ Event.Refused content fault) ∧
      (∀ events events', Event.Logged content events → Event.Logged content events' →
        events = events') ∧
      ((∃ events, Event.Logged content events) ∨ ∃ fault, Event.Refused content fault) := by
  have hload : disk.run storage.loadEvents = ((Event.ofRecords content).mapError Error.state, disk) := by
    rw [Disk.run_loadEvents, logged_of_file (Disk.read_ok_iff.1 h)]
  simp only [hload, ← Event.ofRecords_ok_iff_logged, ← Event.ofRecords_error_iff_refused]
  cases Event.ofRecords content with
  | ok found =>
    refine ⟨fun events => ?_, fun error => ?_, fun events events' hread hread' => ?_, Or.inl ⟨found, rfl⟩⟩
    · simp [Except.mapError]
    · simp [Except.mapError]
    · cases hread
      cases hread'
      rfl
  | error fault =>
    refine ⟨fun events => ?_, fun error => ?_, fun events events' hread => ?_, Or.inr ⟨fault, rfl⟩⟩
    · simp [Except.mapError]
    · simp [Except.mapError, eq_comm]
    · cases hread

end Reading

/-- A log with a byte to spare behind its event, and a piece of a length at the end. -/
def Bytes.spareLog : Bytes :=
  Bytes.little 8 37 ++ ((Event.canceled .ones).payload ++ [7]) ++ [1, 2, 3]

/-- What is to spare is passed over. -/
theorem a_log_with_bytes_to_spare_is_read :
    (Disk.ofLog Bytes.spareLog).read Storage.inData.events = .ok Bytes.spareLog ∧
      (Disk.ofLog Bytes.spareLog).run Storage.inData.loadEvents =
        (.ok [.canceled .ones], Disk.ofLog Bytes.spareLog) := by
  have hread := Disk.read_ok_iff.2 (sight_ofLog Bytes.spareLog)
  refine ⟨hread, ((a_log_is_read_as_its_records_or_refused hread).1 _).2 ⟨[_], [1, 2, 3], ?_,
    .cons ⟨[7], by decide, rfl⟩ .nil, by decide⟩⟩
  rw [List.flatten_singleton]
  rfl

end RetryTickets
