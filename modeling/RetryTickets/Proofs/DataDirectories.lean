-- A data directory with a log and a snapshot in it, and what storage does to
-- the two: an event that is appended changes the log only, a snapshot that is
-- persisted replaces the snapshot only.
import RetryTickets.Proofs.Appends
import RetryTickets.Proofs.Creation
import RetryTickets.Proofs.Snapshots

namespace RetryTickets

/-- The files that storage writes in its directory. -/
def dataFiles : List String := ["events.log", "tickets.bin", "tickets.bin.tmp"]

/-- Storage in a directory. -/
def Storage.inDirectory (directory : Path) : Storage :=
  ⟨directory.join "events.log", directory.join "tickets.bin"⟩

theorem Storage.temporary_inDirectory (directory : Path) :
    (Storage.inDirectory directory).temporary = directory.join "tickets.bin.tmp" :=
  Path.temporary_join directory

theorem plain_of_mem {file : String} (h : file ∈ dataFiles) : Path.Plain file := by
  simp only [dataFiles, List.mem_cons, List.not_mem_nil, or_false] at h
  rcases h with rfl | rfl | rfl
  · exact Path.plain_events
  · exact Path.plain_snapshot
  · exact Path.plain_temporary

namespace Disk

variable {disk made next : Disk} {directory : Path} {place : List String} {file : String}

theorem start_join (disk : Disk) (hnamed : directory.text ≠ "") (file : String) :
    disk.start (directory.join file) = disk.start directory := by
  unfold start
  rw [Path.isAbsolute_join hnamed file]

/-! ## Making room -/

/-- What making the directory around a file comes to. -/
theorem parent_join (directory : Path) {file : String} (hnamed : directory.text ≠ "") (hfile : Path.Plain file) :
    ∃ shorter, Path.ofParts (directory.join file).front shorter ≠ .empty ∧
      (directory.join file).front ++ shorter <+: (directory.join file).segments ∧
      (shorter = [] ∨ ∃ name rest, shorter.reverse = name :: rest ∧ Path.isIdle name = false) ∧
      (directory.join file).parent? = some (.ofParts (directory.join file).front shorter) ∧
      ∀ disk : Disk, disk.walk [] (disk.start (directory.join file) ++
          ((directory.join file).front ++ shorter)) =
        disk.walk [] (disk.start directory ++ directory.base) := by
  obtain ⟨shorter, hparent, hempty, hbegins, htrimmed, hwalk⟩ := Path.parent?_join hnamed hfile
  refine ⟨shorter, hempty, hbegins, htrimmed, hparent, fun disk => ?_⟩
  rw [start_join disk hnamed file, walk_append, walk_append]
  congr 1
  funext next
  exact hwalk disk next

theorem run_makeRoom_eq {path parent : Path} (h : path.parent? = some parent) (disk : Disk) :
    disk.run (Storage.makeRoom path) =
      disk.run (Storage.attempt .createDirectory (FileOperations.makeDirectories parent)) := by
  unfold Storage.makeRoom
  rw [h]

/-- The directory around a file can be made where another disk has it. -/
theorem run_makeRoom_reaches (hnamed : directory.text ≠ "") (hfile : Path.Plain file)
    (haccept : accept (directory.join file) = .ok ())
    (hstart : ∃ front, disk.walk [] (disk.start directory) = .ok front) (hunder : Under disk made)
    (hmade : made.walk [] (made.start directory ++ directory.base) = .ok place) :
    ∃ next, disk.run (Storage.makeRoom (directory.join file)) = (.ok (), next) ∧
      Grown disk next ∧ Under next made ∧
      next.walk [] (next.start directory ++ directory.base) = .ok place := by
  obtain ⟨shorter, hempty, hbegins, htrimmed, hparent, hall⟩ :=
    parent_join directory hnamed hfile
  rw [← start_join disk hnamed file] at hstart
  rw [← hall made, hunder.start] at hmade
  obtain ⟨next, hrun, hgrown, hnext, hwalk⟩ := OnDisk.makeDirectories_reaches ⟨haccept, hstart⟩ hbegins
    hempty htrimmed hunder hmade
  refine ⟨next, ?_, hgrown, hnext, ?_⟩
  · rw [run_makeRoom_eq hparent, run_attempt, hrun]
  · rw [← hall next, hgrown.under.start]
    exact hwalk

/-- Where the directory around a file was made, the walk to it goes through. -/
theorem run_makeRoom_ok (hnamed : directory.text ≠ "") (hfile : Path.Plain file)
    (h : disk.run (Storage.makeRoom (directory.join file)) = (.ok (), next)) :
    (∃ front, disk.walk [] (disk.start directory) = .ok front) ∧
      ∃ place, next.walk [] (next.start directory ++ directory.base) = .ok place := by
  obtain ⟨shorter, hempty, hbegins, _, hparent, hall⟩ :=
    parent_join directory hnamed hfile
  rw [run_makeRoom_eq hparent, run_attempt] at h
  rcases hmake : (FileOperations.makeDirectories (.ofParts (directory.join file).front shorter) :
      OnDisk _) disk with ⟨fault | u, after⟩
  · rw [hmake] at h
    cases h
  · rw [hmake] at h
    cases h
    have hok : ((FileOperations.makeDirectories (.ofParts (directory.join file).front shorter) :
        OnDisk _) disk).1 = .ok () := by rw [hmake]
    have hsegments := Path.segments_ofParts_ne_nil hempty
    have hstart := OnDisk.start_of_makeDirectories hsegments hempty hok
    rw [OnDisk.start_ofParts disk hbegins hempty, start_join disk hnamed file] at hstart
    have hsight := OnDisk.makeDirectories_ok hempty hok
    rw [hmake] at hsight
    refine ⟨hstart, ?_⟩
    obtain ⟨haccept, place, hwalk⟩ := (sight_folder_iff hsegments).1 hsight
    rw [OnDisk.start_ofParts next hbegins hempty] at hwalk
    obtain ⟨front, hfront, hrest⟩ := walk_append_ok_iff.1 hwalk
    rw [Path.walk_ofParts] at hrest
    refine ⟨place, ?_⟩
    rw [← hall next]
    exact walk_append_ok_iff.2 ⟨front, hfront, hrest⟩

/-! ## What a data directory keeps -/

/-- A disk on which a directory is there at a place, with nothing where its files go. -/
structure Offers (made : Disk) (directory : Path) (place : List String) : Prop where
  named : directory.text ≠ ""
  accepted : ∀ file ∈ dataFiles, accept (directory.join file) = .ok ()
  walk : made.walk [] (made.start directory ++ directory.base) = .ok place
  free : ∀ file ∈ dataFiles, made.kind? (place ++ [file]) = none

/-- A disk with no more folders than another one that offers a data directory, and with these
files in it. Once there is a file, so is the directory. -/
structure Keeps (made : Disk) (directory : Path) (place : List String) (disk : Disk)
    (files : String → Option Bytes) : Prop where
  under : Under disk made
  start : ∃ front, disk.walk [] (disk.start directory) = .ok front
  has : ∀ file ∈ dataFiles, disk.kind? (place ++ [file]) = (files file).map .file
  reached : (∀ file ∈ dataFiles, files file = none) ∨
    disk.walk [] (disk.start directory ++ directory.base) = .ok place

variable {files : String → Option Bytes}

namespace Keeps

/-- Every file of the directory is looked for at its place. -/
theorem target (hoffers : Offers made directory place) (hfile : file ∈ dataFiles)
    (hwalk : disk.walk [] (disk.start directory ++ directory.base) = .ok place) :
    disk.target (directory.join file) = .ok (.entry place file) := by
  have htarget := target_join disk (plain_of_mem hfile) (hoffers.accepted file hfile)
  rw [start_join disk hoffers.named file, hwalk] at htarget
  exact htarget

/-- What a file in the directory leads to is what is at its place. -/
theorem sight (hoffers : Offers made directory place) (h : Keeps made directory place disk files)
    (file : String) (hfile : file ∈ dataFiles) :
    disk.sight (directory.join file) =
      (files file).elim (.error .notFound) fun content => .ok (.file content) := by
  have hplain := plain_of_mem hfile
  have hmade := hoffers.walk
  rw [h.under.start] at hmade
  rcases h.under.walk_of hmade with hwalk | hwalk
  · rw [sight_of_target (target hoffers hfile hwalk)]
    have hkind := h.has file hfile
    cases hcontent : files file with
    | none => simp [sightAt, hplain.short, hkind, hcontent]
    | some content =>
      simp [sightAt, hplain.short, hkind, hcontent, Path.endsInSlash_join directory hplain]
  · rcases h.reached with hnone | hreached
    · have htarget := target_join disk hplain (hoffers.accepted file hfile)
      rw [start_join disk hoffers.named file, hwalk] at htarget
      unfold Disk.sight
      rw [htarget, hnone file hfile]
      rfl
    · rw [hwalk] at hreached
      cases hreached

/-- Folders that another disk has too do not change what a directory keeps. -/
theorem grown (hoffers : Offers made directory place) (h : Keeps made directory place disk files)
    (hgrown : Grown disk next) (hunder : Under next made) : Keeps made directory place next files := by
  obtain ⟨front, hstart⟩ := h.start
  refine ⟨hunder, ⟨front, ?_⟩, fun file hfile => ?_, h.reached.imp id fun hwalk => ?_⟩
  · rw [hgrown.under.start]
    exact hgrown.under.walk_ok hstart
  · rw [← h.has file hfile]
    rcases hgrown.kind? (place ++ [file]) with hsame | ⟨_, hfolder⟩
    · exact hsame
    · have hmade := hunder.folder _ hfolder
      rw [hoffers.free file hfile] at hmade
      cases hmade
  · rw [hgrown.under.start]
    exact hgrown.under.walk_ok hwalk

/-- The directory can be made around each of its files. -/
theorem run_makeRoom (hoffers : Offers made directory place) (h : Keeps made directory place disk files)
    (file : String) (hfile : file ∈ dataFiles) :
    ∃ next, disk.run (Storage.makeRoom (directory.join file)) = (.ok (), next) ∧
      Keeps made directory place next files ∧
      next.walk [] (next.start directory ++ directory.base) = .ok place := by
  obtain ⟨next, hrun, hgrown, hunder, hwalk⟩ := run_makeRoom_reaches hoffers.named (plain_of_mem hfile)
    (hoffers.accepted file hfile) h.start h.under hoffers.walk
  exact ⟨next, hrun, h.grown hoffers hgrown hunder, hwalk⟩

theorem run_prepare (hoffers : Offers made directory place) (h : Keeps made directory place disk files) :
    ∃ next, disk.run (Storage.inDirectory directory).prepare = (.ok (), next) ∧
      Keeps made directory place next files ∧
      next.walk [] (next.start directory ++ directory.base) = .ok place := by
  obtain ⟨first, hfirst, hkeeps, _⟩ := h.run_makeRoom hoffers "events.log" (by simp [dataFiles])
  obtain ⟨second, hsecond, hkeeps, hwalk⟩ :=
    hkeeps.run_makeRoom hoffers "tickets.bin" (by simp [dataFiles])
  exact ⟨second, (run_bind_of_ok hfirst).trans hsecond, hkeeps, hwalk⟩

/-! ## Changing a file -/

/-- A file that comes, goes or changes leaves the others as they are. -/
theorem changedAt (hoffers : Offers made directory place) (h : Keeps made directory place disk files)
    (hwalk : disk.walk [] (disk.start directory ++ directory.base) = .ok place)
    (hfile : file ∈ dataFiles) (content : Option Bytes)
    (hchanged : ChangedAt disk next (place ++ [file]) (content.map .file)) :
    Keeps made directory place next (Function.update files file content) ∧
      next.walk [] (next.start directory ++ directory.base) = .ok place := by
  have hspot : disk.kind? (place ++ [file]) ≠ some .folder := by
    rw [h.has file hfile]
    cases files file <;> simp
  have hnew : content.map Kind.file ≠ some .folder := by cases content <;> simp
  have hunder := hchanged.under hspot hnew
  have hnext : next.walk [] (next.start directory ++ directory.base) = .ok place := by
    rw [hunder.start]
    exact hunder.walk_ok hwalk
  obtain ⟨front, hstart⟩ := h.start
  refine ⟨⟨⟨?_, fun other hfolder => ?_, fun other hfolder => ?_⟩, ⟨front, ?_⟩, fun other hother => ?_,
    Or.inr hnext⟩, hnext⟩
  · exact h.under.working.trans hunder.working.symm
  · exact h.under.folder other ((hchanged.folder_iff hspot hnew other).1 hfolder)
  · rw [hchanged.kind?, if_neg]
    · exact h.under.clear other hfolder
    · rintro rfl
      rw [hoffers.free file hfile] at hfolder
      cases hfolder
  · rw [hunder.start]
    exact hunder.walk_ok hstart
  · rw [hchanged.kind?]
    by_cases hsame : other = file
    · rw [hsame, if_pos rfl, Function.update_self]
    · rw [if_neg (by simpa using hsame), Function.update_of_ne hsame]
      exact h.has other hother

theorem writable (hoffers : Offers made directory place) (h : Keeps made directory place disk files)
    (hwalk : disk.walk [] (disk.start directory ++ directory.base) = .ok place)
    (hfile : file ∈ dataFiles) :
    disk.writable (directory.join file) = .ok (place, file, (files file).getD []) := by
  have hplain := plain_of_mem hfile
  have hkind := h.has file hfile
  refine writable_ok_iff.2 ⟨target hoffers hfile hwalk, Path.endsInSlash_join directory hplain,
    hplain.short, ?_⟩
  cases hcontent : files file with
  | none => exact Or.inl ⟨by rw [hkind, hcontent]; rfl, rfl⟩
  | some content => exact Or.inr (by rw [hkind, hcontent]; rfl)

/-- A file can be given any bytes. -/
theorem set (hoffers : Offers made directory place) (h : Keeps made directory place disk files)
    (hwalk : disk.walk [] (disk.start directory ++ directory.base) = .ok place)
    (hfile : file ∈ dataFiles) (content : Bytes) :
    Keeps made directory place (disk.update place (·.set file (.file content)))
        (Function.update files file (some content)) ∧
      (disk.update place (·.set file (.file content))).walk []
        ((disk.update place (·.set file (.file content))).start directory ++ directory.base) = .ok place :=
  h.changedAt hoffers hwalk hfile (some content)
    (writable_changedAt (h.writable hoffers hwalk hfile) content)

/-- The file takes the place of the other one, and is gone from its own. -/
theorem rename (hoffers : Offers made directory place) (h : Keeps made directory place disk files)
    (hwalk : disk.walk [] (disk.start directory ++ directory.base) = .ok place)
    (hfile : file ∈ dataFiles) {other : String} (hother : other ∈ dataFiles) (hne : other ≠ file)
    {content : Bytes} (hcontent : files file = some content) :
    ∃ next, disk.rename (directory.join file) (directory.join other) = .ok next ∧
      Keeps made directory place next
        (Function.update (Function.update files file none) other (some content)) ∧
      next.walk [] (next.start directory ++ directory.base) = .ok place := by
  have hplain := plain_of_mem hfile
  have hplain' := plain_of_mem hother
  have hkind : disk.kind? (place ++ [file]) = some (.file content) := by
    rw [h.has file hfile, hcontent]
    rfl
  have hfree : disk.kind? (place ++ [other]) ≠ some .folder := by
    rw [h.has other hother]
    cases files other <;> simp
  obtain ⟨between, next, hrename, hgone, hnew⟩ := rename_of_file (target hoffers hfile hwalk)
    (target hoffers hother hwalk) (Path.endsInSlash_join directory hplain)
    (Path.endsInSlash_join directory hplain') hplain.short hplain'.short hkind hfree (by simpa using hne)
  obtain ⟨hbetween, hthere⟩ := h.changedAt hoffers hwalk hfile none hgone
  exact ⟨next, hrename, hbetween.changedAt hoffers hthere hother (some content) hnew⟩

/-- The directory around a file can be opened. -/
theorem touch (hoffers : Offers made directory place) (hfile : file ∈ dataFiles)
    (hwalk : disk.walk [] (disk.start directory ++ directory.base) = .ok place) {parent : Path}
    (hparent : (directory.join file).parent? = some parent) : ∃ node, disk.find parent = .ok node := by
  obtain ⟨shorter, hempty, hbegins, _, hfound, hall⟩ := parent_join directory hoffers.named (plain_of_mem hfile)
  rw [hfound] at hparent
  cases hparent
  have hsight := (OnDisk.sight_ofParts_iff (hoffers.accepted file hfile) hbegins hempty).2
    ⟨place, (hall disk).trans hwalk⟩
  rw [← find_kind, Except.map_ok_iff] at hsight
  obtain ⟨node, hfind, _⟩ := hsight
  exact ⟨node, hfind⟩

/-! ## Appending and replacing -/

/-- A log behind which some events were put, one after the other. -/
def logAfter (log : Option Bytes) (events : List Event) : Option Bytes :=
  events.foldl (fun log event => some (log.getD [] ++ event.record)) log

theorem run_appendEvent (hoffers : Offers made directory place)
    (h : Keeps made directory place disk files) (event : Event) :
    ∃ next, disk.run ((Storage.inDirectory directory).appendEvent event) = (.ok (), next) ∧
      Keeps made directory place next
        (Function.update files "events.log" (some ((files "events.log").getD [] ++ event.record))) := by
  have hfile : "events.log" ∈ dataFiles := by simp [dataFiles]
  obtain ⟨ready, hprepare, hkeeps, hwalk⟩ := h.run_prepare hoffers
  refine ⟨_, ?_, (hkeeps.set hoffers hwalk hfile _).1⟩
  unfold Storage.appendEvent
  rw [run_bind_of_ok hprepare]
  exact run_attempt_change_ok_iff.2
    (append_ok_iff.2 ⟨place, "events.log", _, hkeeps.writable hoffers hwalk hfile, rfl⟩)

theorem run_appendEvents (hoffers : Offers made directory place) (events : List Event)
    (h : Keeps made directory place disk files) :
    ∃ next, disk.run (events.forM (Storage.inDirectory directory).appendEvent) = (.ok (), next) ∧
      Keeps made directory place next
        (Function.update files "events.log" (logAfter (files "events.log") events)) := by
  induction events generalizing disk files with
  | nil =>
    refine ⟨disk, rfl, ?_⟩
    rw [logAfter, List.foldl_nil, Function.update_eq_self]
    exact h
  | cons event rest ih =>
    obtain ⟨middle, hevent, hmiddle⟩ := h.run_appendEvent hoffers event
    obtain ⟨next, hrest, hnext⟩ := ih hmiddle
    rw [Function.update_self, Function.update_idem] at hnext
    exact ⟨next, (run_bind_of_ok hevent).trans hrest, hnext⟩

/-- A snapshot that is persisted stands in the place of the one before. -/
theorem run_persist (hoffers : Offers made directory place) (h : Keeps made directory place disk files)
    (hfree : files "tickets.bin.tmp" = none) (registry : Registry) :
    ∃ next, disk.run ((Storage.inDirectory directory).persist registry) = (.ok (), next) ∧
      Keeps made directory place next
        (Function.update files "tickets.bin" (some registry.toBytes)) := by
  have hsnapshot : "tickets.bin" ∈ dataFiles := by simp [dataFiles]
  have htemporary : "tickets.bin.tmp" ∈ dataFiles := by simp [dataFiles]
  obtain ⟨ready, hprepare, hready, hwalk⟩ := h.run_prepare hoffers
  obtain ⟨hwritten, hwalk'⟩ := hready.set hoffers hwalk htemporary registry.toBytes
  have hwrite : ready.run (Storage.attempt .createTemporary
      (FileOperations.write (directory.join "tickets.bin.tmp") registry.toBytes)) = (.ok (), _) :=
    run_attempt_change_ok_iff.2 (write_ok_iff.2
      ⟨place, "tickets.bin.tmp", _, hready.writable hoffers hwalk htemporary, rfl⟩)
  obtain ⟨next, hrename, hnext, hwalk''⟩ := hwritten.rename hoffers hwalk' htemporary hsnapshot
    (by decide) (Function.update_self _ _ _)
  have hrenamed : Disk.run _ (Storage.attempt .renameTemporary (FileOperations.rename
      (directory.join "tickets.bin.tmp") (directory.join "tickets.bin"))) = (.ok (), next) :=
    run_attempt_change_ok_iff.2 hrename
  refine ⟨next, ?_, ?_⟩
  · unfold Storage.persist
    rw [run_bind_of_ok hprepare, Storage.temporary_inDirectory, run_bind_of_ok hwrite]
    refine (run_bind_of_ok hrenamed).trans ?_
    split
    · rename_i parent hparent
      obtain ⟨node, hfind⟩ := touch hoffers hsnapshot hwalk'' hparent
      have htouch : (FileOperations.touch parent : OnDisk _) next = (.ok (), next) := by
        show ((next.find parent).map fun _ => (), next) = _
        rw [hfind]
        rfl
      rw [run_attempt, htouch]
    · rfl
  · have hgone : Function.update files "tickets.bin.tmp" none = files := by
      rw [← hfree, Function.update_eq_self]
    rw [Function.update_idem, hgone] at hnext
    exact hnext

/-- A commit puts the events behind the log and then replaces the snapshot. -/
theorem run_commit (hoffers : Offers made directory place) (h : Keeps made directory place disk files)
    (hfree : files "tickets.bin.tmp" = none) (registry : Registry) (events : List Event) :
    ∃ next, disk.run ((Storage.inDirectory directory).commit registry events) = (.ok (), next) ∧
      Keeps made directory place next
        (Function.update (Function.update files "events.log" (logAfter (files "events.log") events))
          "tickets.bin" (some registry.toBytes)) := by
  obtain ⟨middle, hevents, hmiddle⟩ := h.run_appendEvents hoffers events
  obtain ⟨next, hpersist, hnext⟩ := hmiddle.run_persist hoffers
    ((Function.update_of_ne (by decide) _ _).trans hfree) registry
  exact ⟨next, (run_bind_of_ok hevents).trans hpersist, hnext⟩

/-- Making the directory once more, or for the first time, leaves its files as they are. -/
theorem run_makeDirectories (hoffers : Offers made directory place)
    (h : Keeps made directory place disk files) (step : FileStep) :
    Keeps made directory place
      (disk.run (Storage.attempt step (FileOperations.makeDirectories directory))).2 files := by
  have hmade : ∃ last, made.walk [] (made.start directory ++ directory.segments) = .ok last := by
    rcases Path.segments_eq_base directory with hsegments | hsegments
    · exact ⟨place, by rw [hsegments, hoffers.walk]⟩
    · refine ⟨place, ?_⟩
      rw [hsegments, ← List.append_assoc]
      refine walk_append_ok_iff.2 ⟨place, hoffers.walk, ?_⟩
      rw [walk_singleton]
      exact pass_idle (show Path.isIdle "" = true from rfl)
  obtain ⟨last, hmade⟩ := hmade
  have hgrown := OnDisk.makeDirectories_grown directory disk
  have hunder := OnDisk.makeDirectories_under h.under hmade
  rw [run_attempt_disk]
  exact h.grown hoffers hgrown hunder

end Keeps

/-! ## A directory to begin with -/

/-- A directory that storage can make, with nothing yet where its files go. -/
structure Admits (disk : Disk) (directory : Path) : Prop where
  named : directory.text ≠ ""
  made : ∃ made, disk.run (Storage.inDirectory directory).prepare = (.ok (), made) ∧
    ∀ file ∈ dataFiles, made.find (directory.join file) = .error .notFound

/-- A path that leads to nothing is one that the system takes. -/
theorem accept_of_notFound {path : Path} (hpath : path ≠ .empty) (h : disk.sight path = .error .notFound) :
    accept path = .ok () := by
  unfold Disk.sight at h
  rw [target_eq] at h
  cases haccept : accept path with
  | ok u => rfl
  | error fault =>
    rw [haccept] at h
    cases h
    unfold accept at haccept
    split at haccept
    · cases haccept
    · split at haccept <;> cases haccept

theorem join_ne_empty (hnamed : directory.text ≠ "") (file : String) :
    directory.join file ≠ .empty := by
  intro h
  rw [Path.join_eq] at h
  have hsegments : directory.base ++ [file] = [""] := congrArg Path.segments h
  obtain ⟨first, rest, hbase⟩ := List.exists_cons_of_ne_nil (Path.base_ne_nil hnamed)
  rw [hbase] at hsegments
  simp at hsegments

/-- A directory that is there is offered if nothing is where its files go. -/
theorem offers_of_walk (hnamed : directory.text ≠ "")
    (hfind : ∀ file ∈ dataFiles, made.find (directory.join file) = .error .notFound)
    (hwalk : made.walk [] (made.start directory ++ directory.base) = .ok place) :
    Offers made directory place := by
  have hsight : ∀ file ∈ dataFiles, made.sight (directory.join file) = .error .notFound := by
    intro file hfile
    rw [← find_kind, hfind file hfile]
    rfl
  have haccept : ∀ file ∈ dataFiles, accept (directory.join file) = .ok () := fun file hfile =>
    accept_of_notFound (join_ne_empty hnamed file) (hsight file hfile)
  refine ⟨hnamed, haccept, hwalk, fun file hfile => ?_⟩
  have hplain := plain_of_mem hfile
  have htarget := target_join made hplain (haccept file hfile)
  rw [start_join made hnamed file, hwalk] at htarget
  have hnothing := hsight file hfile
  rw [sight_of_target htarget] at hnothing
  unfold sightAt at hnothing
  simp only [hplain.short, if_false, Path.endsInSlash_join directory hplain] at hnothing
  cases hkind : made.kind? (place ++ [file]) with
  | none => rfl
  | some kind =>
    rw [hkind] at hnothing
    cases kind <;> cases hnothing

/-- A disk that grew into one that offers a directory kept no files in it. -/
theorem Offers.keeps_of_grown (hoffers : Offers made directory place) (hgrown : Grown disk made)
    (hstart : ∃ front, disk.walk [] (disk.start directory) = .ok front) :
    Keeps made directory place disk fun _ => none := by
  refine ⟨hgrown.under, hstart, fun file hfile => ?_, Or.inl fun _ _ => rfl⟩
  rcases hgrown.kind? (place ++ [file]) with hsame | ⟨hnone, _⟩
  · rw [← hsame, hoffers.free file hfile]
    rfl
  · exact hnone

/-- A directory that can be made is offered by the disk on which it was made. -/
theorem Admits.offers (h : Admits disk directory) :
    ∃ made place, Offers made directory place ∧ Keeps made directory place disk fun _ => none := by
  obtain ⟨hnamed, made, hprepare, hfind⟩ := h
  have hgrown := run_prepare_grown (Storage.inDirectory directory) disk
  rw [hprepare] at hgrown
  obtain ⟨_, between, hfirst, hsecond⟩ := run_bind_ok_iff.1 hprepare
  obtain ⟨hstart, _⟩ := run_makeRoom_ok hnamed Path.plain_events hfirst
  obtain ⟨_, place, hwalk⟩ := run_makeRoom_ok hnamed Path.plain_snapshot hsecond
  have hoffers := offers_of_walk hnamed hfind hwalk
  exact ⟨made, place, hoffers, hoffers.keeps_of_grown hgrown hstart⟩

/-- A directory that can be made by itself is one that storage can make. -/
theorem admits_of_makeDirectories (hnamed : directory.text ≠ "")
    (hmake : (FileOperations.makeDirectories directory : OnDisk _) disk = (.ok (), made))
    (hfind : ∀ file ∈ dataFiles, made.find (directory.join file) = .error .notFound) :
    Admits disk directory := by
  have hempty : directory ≠ .empty := by
    rintro rfl
    exact hnamed rfl
  have hsegments : directory.segments ≠ [] := by
    have hbase := Path.base_ne_nil hnamed
    rcases Path.segments_eq_base directory with hsame | hslash
    · rw [hsame]
      exact hbase
    · simp [hslash]
  have hok : ((FileOperations.makeDirectories directory : OnDisk _) disk).1 = .ok () := by rw [hmake]
  have hgrown := OnDisk.makeDirectories_grown directory disk
  have hsight := OnDisk.makeDirectories_ok hempty hok
  rw [hmake] at hgrown hsight
  obtain ⟨_, last, hwalk⟩ := (sight_folder_iff hsegments).1 hsight
  have hbase : ∃ place, made.walk [] (made.start directory ++ directory.base) = .ok place := by
    rcases Path.segments_eq_base directory with hsame | hslash
    · rw [hsame] at hwalk
      exact ⟨last, hwalk⟩
    · rw [hslash, ← List.append_assoc] at hwalk
      obtain ⟨place, hwalk, _⟩ := walk_append_ok_iff.1 hwalk
      exact ⟨place, hwalk⟩
  obtain ⟨place, hwalk⟩ := hbase
  have hoffers := offers_of_walk hnamed hfind hwalk
  have hkeeps := hoffers.keeps_of_grown hgrown (OnDisk.start_of_makeDirectories hsegments hempty hok)
  obtain ⟨next, hprepare, hnext, _⟩ := hkeeps.run_prepare hoffers
  refine ⟨hnamed, next, hprepare, fun file hfile => ?_⟩
  have hnothing := hnext.sight hoffers file hfile
  rw [← find_kind] at hnothing
  cases hfound : next.find (directory.join file) with
  | error fault =>
    rw [hfound] at hnothing
    cases hnothing
    rfl
  | ok node =>
    rw [hfound] at hnothing
    cases hnothing

end Disk

end RetryTickets
