-- Logs that were cut short. What is left of a log that was written event by event
-- is read as its whole records, if the cut leaves no more behind them than a piece
-- of a length. If it leaves a length and not all of what that promises, nothing
-- is read.
import RetryTickets.Proofs.Appends

namespace RetryTickets

namespace Event

variable {event : Event} {events : List Event} {bytes : Nat} {piece : Bytes}

/-! ## Whole records -/

/-- How many of the records of these events, one behind the other, end within so many bytes. -/
def wholeWithin (bytes : Nat) (events : List Event) : Nat :=
  (List.range events.length).countP fun i => ((events.take (i + 1)).flatMap record).length ≤ bytes

theorem wholeWithin_cons (bytes : Nat) (event : Event) (events : List Event) :
    wholeWithin bytes (event :: events) =
      if event.record.length ≤ bytes then wholeWithin (bytes - event.record.length) events + 1
      else 0 := by
  unfold wholeWithin
  rw [List.length_cons, List.range_succ_eq_map, List.countP_cons, List.countP_map]
  by_cases h : event.record.length ≤ bytes
  · -- A later record ends so much further on.
    have hlater : ∀ later : Nat, event.record.length + later ≤ bytes ↔
        later ≤ bytes - event.record.length := fun later => by omega
    simp [h, Function.comp_def, hlater]
  · have hlater : ∀ later : Nat, ¬ event.record.length + later ≤ bytes := fun later => by omega
    simp [h, Function.comp_def, hlater]

/-! ## Pieces of records -/

/-- The front of a record, and not all of it. -/
def Piece (piece : Bytes) : Prop :=
  ∃ event : Event, ∃ size < event.record.length, piece = event.record.take size

/-- A log that is cut ends in a piece of a record behind its whole ones. -/
theorem exists_piece (bytes : Nat) (events : List Event) :
    ∃ piece, Piece piece ∧ (events.flatMap record).take bytes =
      (events.take (wholeWithin bytes events)).flatMap record ++ piece := by
  induction events generalizing bytes with
  | nil =>
    refine ⟨[], ⟨.created .zero, 0, ?_, rfl⟩, ?_⟩
    · decide
    · simp
  | cons event events ih =>
    rw [wholeWithin_cons, List.flatMap_cons]
    by_cases h : event.record.length ≤ bytes
    · obtain ⟨piece, hpiece, htake⟩ := ih (bytes - event.record.length)
      refine ⟨piece, hpiece, ?_⟩
      rw [if_pos h, List.take_append, List.take_of_length_le h, htake, List.take_succ_cons,
        List.flatMap_cons, List.append_assoc]
    · have hshort := Nat.not_le.1 h
      refine ⟨event.record.take bytes, ⟨event, bytes, hshort, rfl⟩, ?_⟩
      rw [if_neg h, List.take_append_of_le_length (Nat.le_of_lt hshort)]
      rfl

/-- A piece of a record that has all of its length and not all of its payload tears the log. -/
theorem ofRecords_piece (h : Piece piece) :
    Event.ofRecords piece = if piece.length < 8 then .ok [] else .error .tornEvent := by
  by_cases hshort : piece.length < 8
  · rw [if_pos hshort, ofRecords_short hshort]
  rw [if_neg hshort]
  obtain ⟨event, size, hsize, rfl⟩ := h
  obtain ⟨_, hsmall⟩ := event.length_payload
  have hrecord : event.record.length = 8 + event.payload.length := by simp [record]
  have hvalue : Bytes.ofLittle (Bytes.little 8 event.payload.length) = event.payload.length :=
    Bytes.ofLittle_little_of_lt (by omega)
  have hcut : event.record.take size =
      Bytes.little 8 event.payload.length ++ event.payload.take (size - 8) := by
    rw [List.length_take] at hshort
    have hfront : (Bytes.little 8 event.payload.length).length ≤ size := by
      rw [Bytes.length_little]
      omega
    rw [record, List.take_append, List.take_of_length_le hfront, Bytes.length_little]
  rw [hcut]
  apply ofRecords_torn (Bytes.length_little 8 _)
  · rw [hvalue]
    have hendless : 104 < endlessLength := by decide
    omega
  · rw [hvalue, List.length_take]
    omega

end Event

/-! ## A log on a disk -/

namespace Disk

/-- A path leads to one content at most. -/
theorem Holds.unique {disk : Disk} {path : Path} {content content' : Bytes}
    (h : disk.Holds path content) (h' : disk.Holds path content') : content = content' := by
  have hthere : ∀ {found : Bytes}, disk.read path = .ok found → disk.isThere path = true :=
    fun hread => isThere_of_ok (read_ok_iff.1 hread)
  rcases h with hread | ⟨hnot, rfl⟩
  · rcases h' with hread' | ⟨hnot', _⟩
    · exact Except.ok.inj (hread.symm.trans hread')
    · rw [hthere hread] at hnot'
      cases hnot'
  · rcases h' with hread' | ⟨_, rfl⟩
    · rw [hthere hread'] at hnot
      cases hnot
    · rfl

/-- Nothing at all and a file without bytes are read alike. -/
theorem Holds.run_loadEvents {disk : Disk} {storage : Storage} {content : Bytes}
    (h : disk.Holds storage.events content) :
    disk.run storage.loadEvents = ((Event.ofRecords content).mapError Error.state, disk) := by
  rw [Disk.run_loadEvents]
  rcases h with hread | ⟨hnot, rfl⟩
  · rw [logged_of_file (read_ok_iff.1 hread)]
  · rw [Event.ofRecords_short (by decide)]
    cases hsight : disk.sight storage.events with
    | ok kind =>
      rw [isThere_of_ok hsight] at hnot
      cases hnot
    | error fault =>
      unfold logged
      rw [hsight]
      rfl

end Disk

namespace Storage

variable {storage : Storage} {disk written : Disk} {events : List Event} {content : Bytes}

/-- The log has no bytes yet, and none turn up when its directories are made. -/
structure Fresh (storage : Storage) (disk : Disk) : Prop where
  now : disk.Holds storage.events []
  prepared : ∀ made, disk.run storage.prepare = (.ok (), made) → made.Holds storage.events []

/-- Behind a log that is there, each event that is appended adds its record. -/
theorem sight_of_appended (hsight : disk.sight storage.events = .ok (.file content))
    (h : disk.run (events.forM storage.appendEvent) = (.ok (), written)) :
    written.sight storage.events = .ok (.file (content ++ events.flatMap Event.record)) := by
  induction events generalizing disk content with
  | nil =>
    cases h
    rw [List.flatMap_nil, List.append_nil, hsight]
  | cons event events ih =>
    obtain ⟨_, between, hfirst, hrest⟩ := Disk.run_bind_ok_iff.1 h
    obtain ⟨made, before, hprepare, hmade, hbetween⟩ := appendEvent_ok hfirst
    have hgrown := Disk.run_prepare_grown storage disk
    rw [hprepare] at hgrown
    have hread := Disk.read_ok_iff.2 (hgrown.sight_ok hsight)
    rw [hmade.unique (Or.inl hread)] at hbetween
    have hwritten := ih hbetween hrest
    rw [List.append_assoc] at hwritten
    exact hwritten

/-- What is written to a fresh log is a row of records. -/
theorem Fresh.holds_of_appended (hfresh : storage.Fresh disk)
    (h : disk.run (events.forM storage.appendEvent) = (.ok (), written)) :
    written.Holds storage.events (events.flatMap Event.record) := by
  cases events with
  | nil =>
    cases h
    exact hfresh.now
  | cons event events =>
    obtain ⟨_, between, hfirst, hrest⟩ := Disk.run_bind_ok_iff.1 h
    obtain ⟨made, before, hprepare, hmade, hbetween⟩ := appendEvent_ok hfirst
    rw [hmade.unique (hfresh.prepared made hprepare)] at hbetween
    exact Or.inl (Disk.read_ok_iff.2 (sight_of_appended hbetween hrest))

end Storage

/-! ## The law -/

/-- However a log is cut that was written event by event to a fresh file: the events of its whole
records are read, all of them and no others, if less than a length is left behind them, and
otherwise nothing is read. -/
theorem a_cut_log_is_read_as_its_whole_records_or_refused {storage : Storage}
    {disk written : Disk} {events : List Event} (hfresh : storage.Fresh disk)
    (hwritten : disk.run (events.forM storage.appendEvent) = (.ok (), written)) :
    let log := events.flatMap Event.record
    let torn := Error.state .tornEvent
    written.Holds storage.events log ∧
    (∀ (bytes : Nat) (cut : Disk), cut.Holds storage.events (log.take bytes) →
      let whole := events.take (Event.wholeWithin bytes events)
      ∃ rest, log.take bytes = whole.flatMap Event.record ++ rest ∧
        cut.run storage.loadEvents = (if rest.length < 8 then .ok whole else .error torn, cut)) ∧
    torn.message = "State error: Failed to read event data: failed to fill whole buffer" := by
  intro log torn
  refine ⟨hfresh.holds_of_appended hwritten, fun bytes cut hcut => ?_, rfl⟩
  intro whole
  obtain ⟨rest, hpiece, htake⟩ := Event.exists_piece bytes events
  refine ⟨rest, htake, ?_⟩
  have hread : Event.ofRecords (log.take bytes) =
      if rest.length < 8 then .ok whole else .error .tornEvent := by
    have hwhole := (Event.framed_records whole).ofRecords_append rest
    rw [Event.ofRecords_piece hpiece] at hwhole
    rw [htake, hwhole]
    by_cases hshort : rest.length < 8
    · simp only [if_pos hshort, Except.map, List.append_nil]
    · simp only [if_neg hshort, Except.map]
  rw [hcut.run_loadEvents, hread]
  by_cases hshort : rest.length < 8
  · simp only [if_pos hshort, Except.mapError]
  · simp only [if_neg hshort, Except.mapError, torn]

/-- Of two records of 44 bytes, the second is passed over while less than 8 of its bytes are left. -/
theorem seven_bytes_are_passed_over_and_eight_are_not :
    let disk := Disk.blank "home"
    let events : List Event := [.canceled .ones, .created .ones]
    let log := events.flatMap Event.record
    Storage.inData.Fresh disk ∧
      disk.run (events.forM Storage.inData.appendEvent) = (.ok (), Disk.ofLog log) ∧
      (Disk.ofLog (log.take 51)).run Storage.inData.loadEvents =
        (.ok [.canceled .ones], Disk.ofLog (log.take 51)) ∧
      (Disk.ofLog (log.take 52)).run Storage.inData.loadEvents =
        (.error (.state .tornEvent), Disk.ofLog (log.take 52)) := by
  intro disk events log
  have hfresh : Storage.inData.Fresh disk := by
    refine ⟨Or.inr ⟨rfl, rfl⟩, fun made hmade => ?_⟩
    cases hmade
    exact Or.inr ⟨rfl, rfl⟩
  have hfirst : disk.run (Storage.inData.appendEvent (.canceled .ones)) =
      (.ok (), Disk.ofLog (Event.canceled .ones).record) := by
    have hprepare : disk.run Storage.inData.prepare =
        (.ok (), ⟨[("home", .folder [("data", .folder [])])], ["home"]⟩) := rfl
    unfold Storage.appendEvent
    rw [Disk.run_bind_of_ok hprepare]
    exact Disk.run_attempt_change_ok_iff.2 rfl
  have hwritten : disk.run (events.forM Storage.inData.appendEvent) = (.ok (), Disk.ofLog log) :=
    (Disk.run_bind_of_ok hfirst).trans
      ((Disk.run_bind_of_ok (appendEvent_ofLog _ (.created .ones))).trans rfl)
  have hholds : ∀ content, (Disk.ofLog content).Holds Storage.inData.events content :=
    fun content => Or.inl (Disk.read_ok_iff.2 (sight_ofLog content))
  obtain ⟨_, hcut, _⟩ := a_cut_log_is_read_as_its_whole_records_or_refused hfresh hwritten
  -- Within 51 bytes and within 52 there is one whole record of 44.
  have hone : Event.wholeWithin 51 events = 1 := by decide
  have hone' : Event.wholeWithin 52 events = 1 := by decide
  have hleft : ∀ bytes rest, log.take bytes = (events.take 1).flatMap Event.record ++ rest →
      bytes ≤ log.length → rest.length + 44 = bytes := by
    intro bytes rest htake hbytes
    have hlength := congrArg List.length htake
    have hwhole : ((events.take 1).flatMap Event.record).length = 44 := by decide
    rw [List.length_append, List.length_take_of_le hbytes, hwhole] at hlength
    omega
  obtain ⟨rest, htake, hread⟩ := hcut 51 _ (hholds _)
  obtain ⟨rest', htake', hread'⟩ := hcut 52 _ (hholds _)
  rw [hone] at htake hread
  rw [hone'] at htake'
  have hseven := hleft 51 rest htake (by decide)
  have height := hleft 52 rest' htake' (by decide)
  rw [if_pos (by omega)] at hread
  rw [if_neg (by omega)] at hread'
  exact ⟨hfresh, hwritten, hread, hread'⟩

end RetryTickets
