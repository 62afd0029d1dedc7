-- What an event that is appended does to the log: it is read back behind the
-- events that were read before, unless bytes were left over between them.
import RetryTickets.Proofs.Programs
import RetryTickets.Proofs.Records

namespace RetryTickets

namespace Disk

variable {disk made changed after : Disk} {path : Path}

/-- The path leads to a file with these bytes. A file that is not there has none. -/
def Holds (disk : Disk) (path : Path) (content : Bytes) : Prop :=
  disk.read path = .ok content ∨ (disk.isThere path = false ∧ content = [])

/-! ## A file that was written -/

/-- A file is read by the path by which it was written. -/
theorem sight_written {place : List String} {name : String} {before : Bytes}
    (h : disk.writable path = .ok (place, name, before)) (content : Bytes) :
    (disk.update place (·.set name (.file content))).sight path = .ok (.file content) := by
  obtain ⟨htarget, hslash, hshort, _⟩ := writable_ok_iff.1 h
  have hchanged := writable_changedAt h content
  have hnow := hchanged.kind? (place ++ [name])
  rw [if_pos rfl] at hnow
  unfold sight sightAt
  rw [(hchanged.under (not_folder_of_writable h) nofun).target_ok htarget]
  simp [Except.bind, hshort, hnow, hslash]

theorem holds_of_writable {place : List String} {name : String} {before : Bytes}
    (h : disk.writable path = .ok (place, name, before)) : disk.Holds path before := by
  obtain ⟨htarget, hslash, hshort, hkind⟩ := writable_ok_iff.1 h
  rcases hkind with ⟨hnone, rfl⟩ | hfile
  · have hsight : disk.sight path = .error .notFound := by
      simp [sight, sightAt, htarget, Except.bind, hshort, hnone]
    exact Or.inr ⟨isThere_of_error hsight, rfl⟩
  · refine Or.inl (read_ok_iff.2 ?_)
    simp [sight, sightAt, htarget, Except.bind, hshort, hfile, hslash]

end Disk

/-! ## An event that was appended -/

section Appended

variable {storage : Storage} {event : Event} {events : List Event} {disk after : Disk}

/-- An appended event stands behind what the log held once its directories were made. -/
theorem appendEvent_ok (h : disk.run (storage.appendEvent event) = (.ok (), after)) :
    ∃ made before, disk.run storage.prepare = (.ok (), made) ∧ made.Holds storage.events before ∧
      after.sight storage.events = .ok (.file (before ++ event.record)) := by
  obtain ⟨_, made, hprepare, happend⟩ := Disk.run_bind_ok_iff.1 h
  have hchange := Disk.run_attempt_change_ok_iff.1 happend
  obtain ⟨place, name, before, hwritable, rfl⟩ := Disk.append_ok_iff.1 hchange
  exact ⟨made, before, hprepare, Disk.holds_of_writable hwritable,
    Disk.sight_written hwritable (before ++ event.record)⟩

theorem logged_of_file {content : Bytes} (h : disk.sight storage.events = .ok (.file content)) :
    disk.logged storage.events = (Event.ofRecords content).mapError Error.state := by
  unfold Disk.logged
  rw [h]

/-- Events that are loaded come from a log that is there, or there is no log. -/
theorem logged_ok (h : disk.logged storage.events = .ok events) :
    (disk.isThere storage.events = false ∧ events = []) ∨
      ∃ content, disk.sight storage.events = .ok (.file content) ∧
        Event.ofRecords content = .ok events := by
  unfold Disk.logged at h
  split at h
  · rename_i hsight
    cases h
    exact Or.inl ⟨Disk.isThere_of_error hsight, rfl⟩
  · cases h
  · rename_i content hsight
    refine Or.inr ⟨content, hsight, ?_⟩
    cases hread : Event.ofRecords content with
    | error fault =>
      rw [hread] at h
      cases h
    | ok found =>
      rw [hread] at h
      cases h
      rfl

/-- An event that is appended to a log that can be read is read back behind the events before
it just when the log was a row of whole records. Where a piece of a length was left behind the
last of them, nothing can be read from then on. -/
theorem an_event_is_read_back_behind_whole_records
    (hload : disk.run storage.loadEvents = (.ok events, disk))
    (happend : disk.run (storage.appendEvent event) = (.ok (), after)) :
    ∃ made before, disk.run storage.prepare = (.ok (), made) ∧ made.Holds storage.events before ∧
      (disk.isThere storage.events = true → disk.Holds storage.events before) ∧
      after.Holds storage.events (before ++ event.record) ∧
      (disk.isThere storage.events = true ∨ before = [] →
        (after.run storage.loadEvents = (.ok (events ++ [event]), after) ↔
          Event.Framed before events) ∧
        (¬ Event.Framed before events →
          after.run storage.loadEvents = (.error (.state .tornEvent), after))) := by
  obtain ⟨made, before, hprepare, hmade, hafter⟩ := appendEvent_ok happend
  rw [Disk.run_loadEvents, Prod.mk.injEq] at hload
  have hgrown := Disk.run_prepare_grown storage disk
  rw [hprepare] at hgrown
  -- A log that was loaded is the log that was appended to.
  have hsame : ∀ content, disk.sight storage.events = .ok (.file content) → before = content := by
    intro content hsight
    have hgrownSight := hgrown.sight_ok hsight
    rcases hmade with hread | ⟨hnot, _⟩
    · rw [Disk.read_ok_iff, hgrownSight] at hread
      cases hread
      rfl
    · rw [Disk.isThere_of_ok hgrownSight] at hnot
      cases hnot
  refine ⟨made, before, hprepare, hmade, ?_, Or.inl (Disk.read_ok_iff.2 hafter), ?_⟩
  · intro hthere
    rcases logged_ok hload.1 with ⟨hnot, _⟩ | ⟨content, hsight, _⟩
    · rw [hthere] at hnot
      cases hnot
    · rw [hsame content hsight]
      exact Or.inl (Disk.read_ok_iff.2 hsight)
  · intro hcase
    have hread : Event.ofRecords before = .ok events := by
      rcases logged_ok hload.1 with ⟨hnot, rfl⟩ | ⟨content, hsight, hread⟩
      · rcases hcase with hthere | rfl
        · rw [hthere] at hnot
          cases hnot
        · exact Event.Framed.nil.ofRecords
      · rw [hsame content hsight]
        exact hread
    rw [Disk.run_loadEvents, logged_of_file hafter]
    rcases Event.ofRecords_append_record hread event with ⟨hframed, hnext⟩ | ⟨hleft, hnext⟩
    · rw [hnext]
      exact ⟨⟨fun _ => hframed, fun _ => rfl⟩, fun hleft => absurd hframed hleft⟩
    · rw [hnext]
      refine ⟨⟨fun h => ?_, fun hframed => absurd hframed hleft⟩, fun _ => rfl⟩
      cases h

end Appended

/-! ## A log in a data directory -/

/-- Storage in a directory beside the working one's files. -/
def Storage.inData : Storage := ⟨⟨["data", "events.log"]⟩, ⟨["data", "tickets.bin"]⟩⟩

/-- A disk with nothing on it but a log in the data directory. -/
def Disk.ofLog (content : Bytes) : Disk :=
  ⟨[("home", .folder [("data", .folder [("events.log", .file content)])])], ["home"]⟩

theorem sight_ofLog (content : Bytes) :
    (Disk.ofLog content).sight Storage.inData.events = .ok (.file content) := rfl

theorem appendEvent_ofLog (content : Bytes) (event : Event) :
    (Disk.ofLog content).run (Storage.inData.appendEvent event) =
      (.ok (), Disk.ofLog (content ++ event.record)) := by
  have hprepare : (Disk.ofLog content).run Storage.inData.prepare = (.ok (), Disk.ofLog content) := rfl
  unfold Storage.appendEvent
  rw [Disk.run_bind_of_ok hprepare]
  exact Disk.run_attempt_change_ok_iff.2 rfl

theorem loadEvents_ofLog {content : Bytes} {events : List Event}
    (h : Event.ofRecords content = .ok events) :
    (Disk.ofLog content).run Storage.inData.loadEvents = (.ok events, Disk.ofLog content) := by
  rw [Disk.run_loadEvents, logged_of_file (sight_ofLog content), h]
  rfl

/-- The name of a ticket for examples. -/
def TicketId.ones : TicketId := ⟨List.replicate 32 0x11, rfl⟩

/-- A log of one event takes another one. -/
theorem the_second_event_is_read_back :
    (Disk.ofLog (Event.canceled .ones).record).run Storage.inData.loadEvents =
        (.ok [.canceled .ones], Disk.ofLog (Event.canceled .ones).record) ∧
      ∃ after, (Disk.ofLog (Event.canceled .ones).record).run
          (Storage.inData.appendEvent (.created .ones)) = (.ok (), after) ∧
        after.run Storage.inData.loadEvents =
          (.ok [.canceled .ones, .created .ones], after) := by
  have hframed := Event.framed_record (.canceled .ones)
  have hload := loadEvents_ofLog hframed.ofRecords
  have happend := appendEvent_ofLog (Event.canceled .ones).record (.created .ones)
  refine ⟨hload, _, happend, ?_⟩
  obtain ⟨made, before, _, _, hbefore, _, hread⟩ :=
    an_event_is_read_back_behind_whole_records hload happend
  have hthere := Disk.isThere_of_ok (sight_ofLog (Event.canceled .ones).record)
  have hsame : before = (Event.canceled .ones).record := by
    rcases hbefore hthere with h | ⟨h, _⟩
    · rw [Disk.read_ok_iff, sight_ofLog] at h
      cases h
      rfl
    · rw [hthere] at h
      cases h
  rw [← hsame] at hframed
  exact (hread (Or.inl hthere)).1.2 hframed

/-- One byte that is left over behind a record swallows the next event, and with it the log. -/
theorem a_left_over_byte_swallows_the_log :
    (Disk.ofLog ((Event.canceled .ones).record ++ [5])).run Storage.inData.loadEvents =
        (.ok [.canceled .ones], Disk.ofLog ((Event.canceled .ones).record ++ [5])) ∧
      ∃ after, (Disk.ofLog ((Event.canceled .ones).record ++ [5])).run
          (Storage.inData.appendEvent (.created .ones)) = (.ok (), after) ∧
        after.run Storage.inData.loadEvents = (.error (.state .tornEvent), after) := by
  have hframed := Event.framed_record (.canceled .ones)
  have hread : Event.ofRecords ((Event.canceled .ones).record ++ [5]) = .ok [.canceled .ones] :=
    Event.ofRecords_ok_iff.2 ⟨_, [5], rfl, hframed, by decide⟩
  refine ⟨loadEvents_ofLog hread, _, appendEvent_ofLog _ _, ?_⟩
  rw [Disk.run_loadEvents, logged_of_file (sight_ofLog _), List.append_assoc,
    hframed.ofRecords_append, Event.ofRecords_piece_append_record (by decide) (by decide)]
  rfl

end RetryTickets
