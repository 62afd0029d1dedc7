-- Storage as its two files make it out: the events that were appended, in their
-- order, and the snapshot that was persisted last. A write to one of the files
-- leaves the other one as it is, and the file of the new snapshot is gone after
-- each write.
import RetryTickets.Proofs.Replacement
import RetryTickets.Proofs.Snapshots

namespace RetryTickets

namespace Disk

variable {disk made next : Disk} {path : Path} {spot : List String} {content? new? : Option Bytes}

/-! ## Directories around a file -/

/-- The directory around a path is there. -/
def Room (disk : Disk) (path : Path) : Prop :=
  ∀ parent, path.parent? = some parent → parent ≠ .empty → disk.sight parent = .ok .folder

theorem Under.sight_folder (h : Under disk next) (hsight : disk.sight path = .ok .folder) :
    next.sight path = .ok .folder := by
  obtain ⟨target, htarget, hfolder⟩ := Except.bind_ok_iff.1 hsight
  refine Except.bind_ok_iff.2 ⟨target, h.target_ok htarget, ?_⟩
  cases target with
  | folder place => rfl
  | entry place name =>
    obtain ⟨hshort, hkind⟩ := sightAt_entry_folder_iff.1 hfolder
    exact sightAt_entry_folder_iff.2 ⟨hshort, h.folder _ hkind⟩

theorem Room.under (h : disk.Room path) (hunder : Under disk next) : next.Room path :=
  fun parent hparent hempty => hunder.sight_folder (h parent hparent hempty)

/-- Where the directory is there, making it does nothing. -/
theorem Room.run_makeRoom (h : disk.Room path) : disk.run (Storage.makeRoom path) = (.ok (), disk) := by
  unfold Storage.makeRoom
  split
  · rename_i parent hparent
    rw [run_attempt]
    by_cases hempty : parent = .empty
    · rw [hempty]
      rfl
    · have hsight := h parent hparent hempty
      have hmake : (FileOperations.makeDirectories parent : OnDisk _) disk = (.ok (), disk) := by
        unfold FileOperations.makeDirectories
        rw [if_neg hempty, OnDisk.makeWithin_run, makeDirectory_of_sight hsight]
        dsimp only
        rw [OnDisk.settled, if_pos (isDirectory_iff.2 hsight)]
      rw [hmake]
  · rfl

theorem room_of_makeRoom (h : disk.run (Storage.makeRoom path) = (.ok (), made)) : made.Room path := by
  intro parent hparent hempty
  unfold Storage.makeRoom at h
  rw [hparent] at h
  dsimp only at h
  rw [run_attempt] at h
  split at h
  · rename_i _ further hmake
    cases h
    have hok : ((FileOperations.makeDirectories parent : OnDisk _) disk).1 = .ok () := by rw [hmake]
    have hsight := OnDisk.makeDirectories_ok hempty hok
    rw [hmake] at hsight
    exact hsight
  · cases h

/-! ## Places for files -/

theorem spot_of_working (h : next.working = disk.working) (path : Path) : next.spot path = disk.spot path := by
  unfold spot start
  rw [h]

/-- The path is that of a file with these bytes, or of one that could be made. -/
structure Slot (disk : Disk) (path : Path) (content? : Option Bytes) : Prop where
  leads : ∃ place name, disk.target path = .ok (.entry place name) ∧ ¬ nameLimit < name.utf8ByteSize
  plain : path.endsInSlash = false
  holds : disk.kind? (disk.spot path) = content?.map .file

namespace Slot

theorem sight (h : disk.Slot path content?) :
    disk.sight path = content?.elim (.error .notFound) fun content => .ok (.file content) := by
  obtain ⟨place, name, htarget, hshort⟩ := h.leads
  have hkind := h.holds
  rw [spot_of_target htarget] at hkind
  rw [sight_of_target htarget]
  cases content? <;> simp [sightAt, hshort, hkind, h.plain]

theorem writable (h : disk.Slot path content?) :
    ∃ place name, disk.writable path = .ok (place, name, content?.getD []) ∧
      place ++ [name] = disk.spot path := by
  obtain ⟨place, name, htarget, hshort⟩ := h.leads
  have hspot := spot_of_target htarget
  have hkind := h.holds
  rw [hspot] at hkind
  refine ⟨place, name, writable_ok_iff.2 ⟨htarget, h.plain, hshort, ?_⟩, hspot.symm⟩
  cases content? with
  | none => exact Or.inl ⟨hkind, rfl⟩
  | some content => exact Or.inr hkind

theorem not_folder (h : disk.Slot path content?) : disk.kind? (disk.spot path) ≠ some .folder := by
  rw [h.holds]
  cases content? <;> exact nofun

/-- A change at one place is seen at that place and at no other. -/
theorem changedAt (h : disk.Slot path content?) (hspot : disk.kind? spot ≠ some .folder)
    (hchanged : ChangedAt disk next spot (new?.map .file)) :
    next.Slot path (if disk.spot path = spot then new? else content?) := by
  have hnew : new?.map Kind.file ≠ some .folder := by cases new? <;> exact nofun
  obtain ⟨place, name, htarget, hshort⟩ := h.leads
  refine ⟨⟨place, name, (hchanged.under hspot hnew).target_ok htarget, hshort⟩, h.plain, ?_⟩
  rw [spot_of_working hchanged.working, hchanged.kind?]
  split
  · rfl
  · exact h.holds

end Slot

end Disk

/-! ## The files of storage -/

/-- The files that storage has. -/
inductive StorageFile where
  | events
  | snapshot
  | temporary
  deriving DecidableEq

namespace Storage

/-- The path of a file. -/
def path (storage : Storage) : StorageFile → Path
  | .events => storage.events
  | .snapshot => storage.snapshot
  | .temporary => storage.temporary

/-- Three files of their own, in directories that are there, with these bytes. The path of the
snapshot names the directory around it. -/
structure Ready (storage : Storage) (disk : Disk) (files : StorageFile → Option Bytes) : Prop where
  roomForEvents : disk.Room storage.events
  roomForSnapshot : disk.Room storage.snapshot
  named : storage.snapshot.parent? ≠ some .empty
  apart : ∀ a b, disk.spot (storage.path a) = disk.spot (storage.path b) → a = b
  slot : ∀ file, disk.Slot (storage.path file) (files file)

variable {storage : Storage} {disk made next : Disk} {files : StorageFile → Option Bytes}

namespace Ready

theorem run_prepare (h : storage.Ready disk files) : disk.run storage.prepare = (.ok (), disk) :=
  (Disk.run_bind_of_ok h.roomForEvents.run_makeRoom).trans h.roomForSnapshot.run_makeRoom

/-- A file that comes, goes or changes leaves the others as they are. -/
theorem changedAt (h : storage.Ready disk files) (file : StorageFile) (new? : Option Bytes)
    (hchanged : Disk.ChangedAt disk next (disk.spot (storage.path file)) (new?.map .file)) :
    storage.Ready next (Function.update files file new?) := by
  have hspot := (h.slot file).not_folder
  have hnew : new?.map Kind.file ≠ some .folder := by cases new? <;> exact nofun
  have hunder := hchanged.under hspot hnew
  refine ⟨h.roomForEvents.under hunder, h.roomForSnapshot.under hunder, h.named, fun a b hsame => ?_,
    fun other => ?_⟩
  · rw [Disk.spot_of_working hunder.working, Disk.spot_of_working hunder.working] at hsame
    exact h.apart a b hsame
  · have hslot := (h.slot other).changedAt hspot hchanged
    by_cases hother : other = file
    · rw [hother, if_pos rfl] at hslot
      rw [hother, Function.update_self]
      exact hslot
    · rw [if_neg fun hsame => hother (h.apart other file hsame)] at hslot
      rw [Function.update_of_ne hother]
      exact hslot

/-- A file can be given any bytes. -/
theorem set (h : storage.Ready disk files) (file : StorageFile) (content : Bytes) :
    ∃ place name, disk.writable (storage.path file) = .ok (place, name, (files file).getD []) ∧
      storage.Ready (disk.update place (·.set name (.file content)))
        (Function.update files file (some content)) := by
  obtain ⟨place, name, hwritable, hspot⟩ := (h.slot file).writable
  have hchanged := Disk.writable_changedAt hwritable content
  rw [hspot] at hchanged
  exact ⟨place, name, hwritable, h.changedAt file (some content) hchanged⟩

/-- The new snapshot takes the place of the old one, and is gone from its own. -/
theorem rename (h : storage.Ready disk files) {content : Bytes} (hcontent : files .temporary = some content) :
    ∃ next, disk.rename storage.temporary storage.snapshot = .ok next ∧
      storage.Ready next
        (Function.update (Function.update files .temporary none) .snapshot (some content)) := by
  have htemporary := h.slot .temporary
  have hsnapshot := h.slot .snapshot
  obtain ⟨place, name, htarget, hshort⟩ := htemporary.leads
  obtain ⟨newPlace, newName, hnewTarget, hnewShort⟩ := hsnapshot.leads
  have hspot := Disk.spot_of_target htarget
  have hnewSpot := Disk.spot_of_target hnewTarget
  have hfile := htemporary.holds
  have hfree := hsnapshot.not_folder
  have hother : disk.spot (storage.path .snapshot) ≠ disk.spot (storage.path .temporary) :=
    fun hsame => nomatch h.apart _ _ hsame
  rw [hcontent, hspot] at hfile
  rw [hnewSpot] at hfree
  rw [hspot, hnewSpot] at hother
  obtain ⟨between, next, hrename, hgone, hnew⟩ := Disk.rename_of_file htarget hnewTarget
    htemporary.plain hsnapshot.plain hshort hnewShort hfile hfree hother
  rw [← hspot] at hgone
  rw [← hnewSpot, ← Disk.spot_of_working hgone.working] at hnew
  exact ⟨next, hrename, (h.changedAt .temporary none hgone).changedAt .snapshot (some content) hnew⟩

/-! ## Writing -/

theorem run_appendEvent (h : storage.Ready disk files) (event : Event) :
    ∃ next, disk.run (storage.appendEvent event) = (.ok (), next) ∧
      storage.Ready next
        (Function.update files .events (some ((files .events).getD [] ++ event.record))) := by
  obtain ⟨place, name, hwritable, hnext⟩ := h.set .events ((files .events).getD [] ++ event.record)
  refine ⟨_, (Disk.run_bind_of_ok h.run_prepare).trans ?_, hnext⟩
  exact Disk.run_attempt_change_ok_iff.2 (Disk.append_ok_iff.2 ⟨place, name, _, hwritable, rfl⟩)

/-- A snapshot that is persisted stands in the place of the one before, and nothing is left
beside it. -/
theorem run_persist (h : storage.Ready disk files) (registry : Registry) :
    ∃ next, disk.run (storage.persist registry) = (.ok (), next) ∧
      storage.Ready next
        (Function.update (Function.update files .temporary none) .snapshot (some registry.toBytes)) := by
  obtain ⟨place, name, hwritable, hwritten⟩ := h.set .temporary registry.toBytes
  obtain ⟨next, hrename, hnext⟩ := hwritten.rename (Function.update_self _ _ _)
  rw [Function.update_idem] at hnext
  refine ⟨next, ?_, hnext⟩
  refine (Disk.run_bind_of_ok h.run_prepare).trans ?_
  refine (Disk.run_bind_of_ok (Disk.run_attempt_change_ok_iff.2
    (Disk.write_ok_iff.2 ⟨place, name, _, hwritable, rfl⟩))).trans ?_
  refine (Disk.run_bind_of_ok (Disk.run_attempt_change_ok_iff.2 hrename)).trans ?_
  split
  · rename_i parent hparent
    have hempty : parent ≠ .empty := by
      rintro rfl
      exact hnext.named hparent
    rw [Disk.run_attempt_touch, hnext.roomForSnapshot parent hparent hempty]
    rfl
  · rfl

end Ready

/-! ## What storage holds -/

/-- Something to write. -/
inductive Write where
  | append (event : Event)
  | persist (registry : Registry)
  | commit (registry : Registry) (events : List Event)

namespace Write

/-- The events that go into the log. -/
def events : Write → List Event
  | append event => [event]
  | persist _ => []
  | commit _ events => events

/-- The tickets that become the snapshot, if there are any. -/
def registry? : Write → Option Registry
  | append _ => none
  | persist registry => some registry
  | commit registry _ => some registry

/-- Tickets that are written have no more to them than can be counted. -/
def Fits (write : Write) : Prop := ∀ registry, write.registry? = some registry → registry.Fits

end Write

/-- Writes it. -/
def write (storage : Storage) : Write → ExceptT Error OnDisk Unit
  | .append event => storage.appendEvent event
  | .persist registry => storage.persist registry
  | .commit registry events => storage.commit registry events

/-- Three files of their own which hold these events and this snapshot. -/
structure Holds (storage : Storage) (disk : Disk) (files : StorageFile → Option Bytes)
    (events : List Event) (snapshot? : Option Registry) : Prop where
  ready : storage.Ready disk files
  log : (files .events).getD [] = events.flatMap Event.record
  snapshot : files .snapshot = snapshot?.map Registry.toBytes
  temporary : files .temporary = none
  fits : ∀ registry, snapshot? = some registry → registry.Fits

namespace Holds

variable {events : List Event} {snapshot? : Option Registry}

/-! ## One write -/

theorem append (h : storage.Holds disk files events snapshot?) (event : Event) :
    ∃ next files', disk.run (storage.appendEvent event) = (.ok (), next) ∧
      storage.Holds next files' (events ++ [event]) snapshot? := by
  obtain ⟨next, hrun, hnext⟩ := h.ready.run_appendEvent event
  refine ⟨next, _, hrun, hnext, ?_, ?_, ?_, h.fits⟩
  · simp [h.log]
  · rw [Function.update_of_ne (by decide)]
    exact h.snapshot
  · rw [Function.update_of_ne (by decide)]
    exact h.temporary

theorem appends (h : storage.Holds disk files events snapshot?) (more : List Event) :
    ∃ next files', disk.run (more.forM storage.appendEvent) = (.ok (), next) ∧
      storage.Holds next files' (events ++ more) snapshot? := by
  induction more generalizing disk files events with
  | nil =>
    rw [List.append_nil]
    exact ⟨disk, files, rfl, h⟩
  | cons event more ih =>
    obtain ⟨middle, _, hevent, hmiddle⟩ := h.append event
    obtain ⟨next, files', hmore, hnext⟩ := ih hmiddle
    rw [List.append_assoc] at hnext
    exact ⟨next, files', (Disk.run_bind_of_ok hevent).trans hmore, hnext⟩

theorem persist (h : storage.Holds disk files events snapshot?) {registry : Registry}
    (hfits : registry.Fits) :
    ∃ next files', disk.run (storage.persist registry) = (.ok (), next) ∧
      storage.Holds next files' events (some registry) := by
  obtain ⟨next, hrun, hnext⟩ := h.ready.run_persist registry
  refine ⟨next, _, hrun, hnext, ?_, ?_, ?_, ?_⟩
  · rw [Function.update_of_ne (by decide), Function.update_of_ne (by decide)]
    exact h.log
  · exact Function.update_self _ _ _
  · rw [Function.update_of_ne (by decide), Function.update_self]
  · rintro _ ⟨⟩
    exact hfits

/-- Each write adds its events and puts its snapshot in the place of the one before. -/
theorem write (h : storage.Holds disk files events snapshot?) {write : Write} (hfits : write.Fits) :
    ∃ next files', disk.run (storage.write write) = (.ok (), next) ∧
      storage.Holds next files' (events ++ write.events) (write.registry?.or snapshot?) := by
  cases write with
  | append event => exact h.append event
  | persist registry =>
    obtain ⟨next, files', hrun, hnext⟩ := h.persist (hfits registry rfl)
    refine ⟨next, files', hrun, ?_⟩
    rw [Write.events, List.append_nil]
    exact hnext
  | commit registry more =>
    obtain ⟨middle, _, hmore, hmiddle⟩ := h.appends more
    obtain ⟨next, files', hrun, hnext⟩ := hmiddle.persist (hfits registry rfl)
    exact ⟨next, files', (Disk.run_bind_of_ok hmore).trans hrun, hnext⟩

/-! ## All writes -/

theorem last_registry_cons (write : Write) (writes : List Write) (snapshot? : Option Registry) :
    (((write :: writes).filterMap Write.registry?).getLast?).or snapshot? =
      ((writes.filterMap Write.registry?).getLast?).or (write.registry?.or snapshot?) := by
  cases hregistry : write.registry? with
  | none => simp [hregistry]
  | some registry =>
    rw [List.filterMap_cons_some hregistry, List.getLast?_cons]
    cases (writes.filterMap Write.registry?).getLast? <;> rfl

theorem writes (h : storage.Holds disk files events snapshot?) {writes : List Write}
    (hfits : ∀ write ∈ writes, write.Fits) :
    ∃ next files', disk.run (writes.forM storage.write) = (.ok (), next) ∧
      storage.Holds next files' (events ++ writes.flatMap Write.events)
        (((writes.filterMap Write.registry?).getLast?).or snapshot?) := by
  induction writes generalizing disk files events snapshot? with
  | nil =>
    refine ⟨disk, files, rfl, ?_⟩
    rw [List.flatMap_nil, List.append_nil]
    exact h
  | cons write writes ih =>
    obtain ⟨middle, _, hwrite, hmiddle⟩ := h.write (hfits write List.mem_cons_self)
    obtain ⟨next, files', hwrites, hnext⟩ :=
      ih hmiddle fun other hother => hfits other (List.mem_cons_of_mem write hother)
    refine ⟨next, files', (Disk.run_bind_of_ok hwrite).trans hwrites, ?_⟩
    rw [last_registry_cons, List.flatMap_cons, ← List.append_assoc]
    exact hnext

/-! ## Loading -/

theorem run_loadEvents (h : storage.Holds disk files events snapshot?) :
    disk.run storage.loadEvents = (.ok events, disk) := by
  have hread := (Event.framed_records events).ofRecords
  have hsight : disk.sight storage.events = _ := (h.ready.slot .events).sight
  have hlog := h.log
  rw [Disk.run_loadEvents, Disk.logged, hsight]
  cases hfile : files .events with
  | none =>
    rw [hfile, Option.getD_none] at hlog
    rw [← hlog, Event.ofRecords_short (by decide)] at hread
    cases hread
    rfl
  | some content =>
    rw [hfile, Option.getD_some] at hlog
    simp only [Option.elim_some, hlog, hread]
    rfl

theorem run_loadSnapshot (h : storage.Holds disk files events snapshot?) :
    disk.run storage.loadSnapshot = (.ok snapshot?, disk) := by
  have hsight : disk.sight storage.snapshot = _ := (h.ready.slot .snapshot).sight
  rw [Disk.run_loadSnapshot, Disk.kept, hsight, h.snapshot]
  cases snapshot? with
  | none => rfl
  | some registry =>
    simp only [Option.map_some, Option.elim_some, Registry.ofBytes?_toBytes (h.fits registry rfl)]

theorem temporary_gone (h : storage.Holds disk files events snapshot?) :
    disk.isThere storage.temporary = false := by
  have hsight := (h.ready.slot .temporary).sight
  rw [h.temporary] at hsight
  exact Disk.isThere_of_error hsight

end Holds

/-! ## The first write -/

/-- Paths of three files of their own, of which there is none yet, in directories that can be
made. The path of the snapshot names the directory around it. -/
structure Admits (storage : Storage) (disk : Disk) : Prop where
  named : storage.snapshot.parent? ≠ some .empty
  apart : ∀ a b, disk.spot (storage.path a) = disk.spot (storage.path b) → a = b
  room : ∃ made, disk.run storage.prepare = (.ok (), made) ∧
    ∀ file, made.Slot (storage.path file) none

theorem Admits.holds (h : storage.Admits disk) :
    ∃ made, disk.run storage.prepare = (.ok (), made) ∧ storage.Holds made (fun _ => none) [] none := by
  obtain ⟨made, hprepare, hslot⟩ := h.room
  have hgrown := Disk.run_prepare_grown storage disk
  rw [hprepare] at hgrown
  obtain ⟨_, between, hevents, hsnapshot⟩ := Disk.run_bind_ok_iff.1 hprepare
  have hfurther := Disk.run_makeRoom_grown storage.snapshot between
  rw [hsnapshot] at hfurther
  refine ⟨made, hprepare, ⟨?_, ?_, h.named, fun a b hsame => ?_, hslot⟩, rfl, rfl, rfl, nofun⟩
  · exact (Disk.room_of_makeRoom hevents).under hfurther.under
  · exact Disk.room_of_makeRoom hsnapshot
  · rw [Disk.spot_of_working hgrown.working, Disk.spot_of_working hgrown.working] at hsame
    exact h.apart a b hsame

/-- Every write makes the directories first, so one on a disk without them is as good as one
behind it. -/
theorem run_write_of_prepare (hmade : disk.run storage.prepare = (.ok (), made))
    (hagain : made.run storage.prepare = (.ok (), made)) (write : Write) :
    disk.run (storage.write write) = made.run (storage.write write) := by
  have happend (event : Event) :
      disk.run (storage.appendEvent event) = made.run (storage.appendEvent event) := by
    unfold appendEvent
    rw [Disk.run_bind_of_ok hmade, Disk.run_bind_of_ok hagain]
  have hpersist (registry : Registry) :
      disk.run (storage.persist registry) = made.run (storage.persist registry) := by
    unfold persist
    rw [Disk.run_bind_of_ok hmade, Disk.run_bind_of_ok hagain]
  cases write with
  | append event => exact happend event
  | persist registry => exact hpersist registry
  | commit registry events =>
    cases events with
    | nil => exact hpersist registry
    | cons event events =>
      show disk.run ((storage.appendEvent event >>= fun _ => events.forM storage.appendEvent) >>= _) =
        made.run ((storage.appendEvent event >>= fun _ => events.forM storage.appendEvent) >>= _)
      rw [Disk.run_bind, Disk.run_bind, Disk.run_bind, Disk.run_bind, happend event]

/-- Nothing is at the path of a file before the directories are made. -/
theorem Admits.sight (h : storage.Admits disk) (file : StorageFile) :
    ∃ fault, disk.sight (storage.path file) = .error fault := by
  obtain ⟨made, hprepare, hslot⟩ := h.room
  have hgrown := Disk.run_prepare_grown storage disk
  rw [hprepare] at hgrown
  cases hsight : disk.sight (storage.path file) with
  | error fault => exact ⟨fault, rfl⟩
  | ok kind =>
    have hmade := hgrown.sight_ok hsight
    rw [(hslot file).sight] at hmade
    cases hmade

end Storage

section Writing

open Storage

variable {storage : Storage} {disk : Disk} {writes : List Write}

/-- Every write goes through, in whatever order they come. After them, and so after each of them,
the log has the events that were written and no others, in their order, the snapshot is the one
that was written last, and nothing is left beside it. -/
theorem storage_is_a_log_and_a_snapshot (h : storage.Admits disk) (hfits : ∀ write ∈ writes, write.Fits) :
    ∃ after, disk.run (writes.forM storage.write) = (.ok (), after) ∧
      after.run storage.loadEvents = (.ok (writes.flatMap Write.events), after) ∧
      after.run storage.loadSnapshot =
        (.ok (writes.filterMap Write.registry?).getLast?, after) ∧
      after.isThere storage.temporary = false := by
  cases writes with
  | nil =>
    obtain ⟨noLog, hevents : disk.sight storage.events = .error noLog⟩ := h.sight .events
    obtain ⟨noSnapshot, hsnapshot : disk.sight storage.snapshot = .error noSnapshot⟩ :=
      h.sight .snapshot
    obtain ⟨noTemporary, htemporary⟩ := h.sight .temporary
    refine ⟨disk, rfl, ?_, ?_, Disk.isThere_of_error htemporary⟩
    · rw [Disk.run_loadEvents, Disk.logged, hevents]
      rfl
    · rw [Disk.run_loadSnapshot, Disk.kept, hsnapshot]
      rfl
  | cons write writes =>
    obtain ⟨made, hmade, hholds⟩ := h.holds
    obtain ⟨after, files, hrun, hafter⟩ := hholds.writes hfits
    rw [List.nil_append, Option.or_none] at hafter
    refine ⟨after, ?_, hafter.run_loadEvents, hafter.run_loadSnapshot, hafter.temporary_gone⟩
    rw [← hrun]
    show disk.run (storage.write write >>= _) = made.run (storage.write write >>= _)
    rw [Disk.run_bind, Disk.run_bind, run_write_of_prepare hmade hholds.ready.run_prepare]

/-- A registry with a ticket under a key that is not its own. -/
def Registry.misplaced : Registry := Registry.empty.put .ones .plain

theorem admits_inData : Storage.inData.Admits (Disk.blank "home") := by
  refine ⟨by decide, fun a b => ?_, _, rfl, fun file => ?_⟩
  · cases a <;> cases b <;> decide
  · cases file
    · exact ⟨⟨["home", "data"], "events.log", rfl, by decide⟩, rfl, rfl⟩
    · exact ⟨⟨["home", "data"], "tickets.bin", rfl, by decide⟩, rfl, rfl⟩
    · exact ⟨⟨["home", "data"], "tickets.bin.tmp", rfl, by decide⟩, rfl, rfl⟩

/-- Three writes to a directory that is still to be made. -/
theorem three_writes_are_read_back :
    ∃ after, (Disk.blank "home").run ([Write.append (.canceled .ones), .commit .empty [.created .ones],
          .persist .misplaced].forM Storage.inData.write) = (.ok (), after) ∧
      after.run Storage.inData.loadEvents = (.ok [.canceled .ones, .created .ones], after) ∧
      after.run Storage.inData.loadSnapshot = (.ok (some .misplaced), after) ∧
      after.isThere Storage.inData.temporary = false := by
  refine storage_is_a_log_and_a_snapshot admits_inData fun write hwrite registry hregistry => ?_
  simp only [List.mem_cons, List.not_mem_nil, or_false] at hwrite
  rcases hwrite with rfl | rfl | rfl
  · cases hregistry
  · cases hregistry
    exact ⟨by decide, nofun⟩
  · cases hregistry
    refine ⟨by decide, fun ticket hticket => ?_⟩
    rw [List.mem_singleton.1 hticket]
    exact Nat.two_pow_pos 64

end Writing

end RetryTickets
