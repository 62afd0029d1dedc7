-- Replacing the snapshot. All that is written before the new snapshot takes the
-- place of the old one is written elsewhere, so what fails until then leaves the
-- old one as it was. One failure comes too late, and only where the path of the
-- snapshot names no directory. The disk has no permissions, no links and no device
-- that breaks, so a failure is one of a path or of what stands there.
import RetryTickets.Proofs.Appends
import RetryTickets.Proofs.Spots
import RetryTickets.Proofs.Tickets

namespace RetryTickets

/-! ## The path of the new snapshot -/

namespace Path

/-- A name is cut at its last dot, so it is never what it is given behind its stem. -/
theorem stem_extended_ne (name : String) : stem name ++ "." ++ "bin.tmp" ≠ name := by
  intro hname
  have hreverse : name.toList.reverse =
      'p' :: 'm' :: 't' :: '.' :: 'n' :: 'i' :: 'b' :: '.' :: (stem name).toList.reverse := by
    conv => lhs; rw [← hname]
    simp
  have hstem : stem name =
      String.ofList ('n' :: 'i' :: 'b' :: '.' :: (stem name).toList.reverse).reverse := by
    conv => lhs; unfold stem
    rw [hreverse]
    simp
  have hlength := congrArg String.length hstem
  simp at hlength

/-- Names with the extension of a new snapshot stand for something of their own. -/
theorem stem_extended_own (name : String) :
    isIdle (stem name ++ "." ++ "bin.tmp") = false ∧ stem name ++ "." ++ "bin.tmp" ≠ ".." := by
  have hlong : ∀ other : String, other.length < 8 → stem name ++ "." ++ "bin.tmp" ≠ other := by
    rintro _ hshort rfl
    simp only [String.length_append] at hshort
    have hextension : "bin.tmp".length = 7 := rfl
    have hdot : ".".length = 1 := rfl
    omega
  have hnone := hlong "" (by decide)
  have hdot := hlong "." (by decide)
  exact ⟨by simp only [isIdle, hnone, hdot, decide_false, Bool.or_self], hlong ".." (by decide)⟩

/-- Where a path starts is told by what is before its last name. -/
theorem isAbsolute_of_last {path : Path} {before slashes : List String} {name : String}
    (h : path.segments = before ++ name :: slashes) (hname : name ≠ "") :
    path.isAbsolute = decide (before.head? = some "") := by
  unfold isAbsolute
  rw [h]
  cases before with
  | nil => simp [hname]
  | cons first rest => simp

end Path

namespace Disk

variable {disk after : Disk} {path : Path} {place : List String} {name : String} {storage : Storage}

/-- The new snapshot is written beside the old one. -/
theorem spot_temporary_ne (h : disk.target storage.snapshot = .ok (.entry place name)) :
    disk.spot storage.temporary ≠ disk.spot storage.snapshot := by
  obtain ⟨hidle, hout, before, slashes, hsegments, hslashes, hwalk⟩ := last_of_target h
  have hname : name ≠ "" := by
    rintro rfl
    cases hidle
  have hlast : storage.snapshot.segments.reverse.dropWhile Path.isIdle = name :: before.reverse := by
    have hdropped : ∀ slash ∈ slashes.reverse, Path.isIdle slash = true := by
      intro slash hslash
      rw [hslashes slash (List.mem_reverse.1 hslash)]
      rfl
    rw [hsegments, List.reverse_append, List.reverse_cons, List.append_assoc,
      List.dropWhile_append_of_pos hdropped, List.singleton_append,
      List.dropWhile_cons_of_neg (by simp [hidle])]
  have hwritten : ∀ last, last ≠ "" → disk.spot ⟨(last :: before.reverse).reverse⟩ = Path.turn place last := by
    intro last hnonempty
    have hbefore : (last :: before.reverse).reverse = before ++ [last] := by simp
    have hstart : disk.start ⟨before ++ [last]⟩ = disk.start storage.snapshot := by
      unfold start
      rw [Path.isAbsolute_of_last hsegments hname, Path.isAbsolute_of_last rfl hnonempty]
    unfold spot
    rw [hbefore, hstart, ← List.append_assoc, Path.turns_append, ← turns_of_walk hwalk]
    rfl
  rw [spot_of_target h]
  unfold Storage.temporary Path.withExtension
  rw [hlast]
  simp only [hout, if_false]
  split
  -- Two dots alone lead out of the place.
  · rw [hwritten ".." (by decide)]
    intro hsame
    have hlength := congrArg List.length hsame
    simp [Path.turn, Path.isIdle] at hlength
  · obtain ⟨hplain, hinner⟩ := Path.stem_extended_own name
    rw [hwritten _ (fun hempty => by rw [hempty] at hplain; cases hplain), Path.turn_name hplain hinner]
    intro hsame
    exact Path.stem_extended_ne name (List.cons.inj (List.append_cancel_left hsame)).1

/-! ## Giving a file another path -/

/-- Only a file is given another path, and not that of a folder. -/
theorem file_of_rename {source destination : Path} (h : disk.rename source destination = .ok after) :
    ∃ place name newPlace newName content, disk.target source = .ok (.entry place name) ∧
      disk.target destination = .ok (.entry newPlace newName) ∧
      (source.endsInSlash = false ∧ destination.endsInSlash = false) ∧
      (¬ nameLimit < name.utf8ByteSize ∧ ¬ nameLimit < newName.utf8ByteSize) ∧
      disk.kind? (place ++ [name]) = some (.file content) ∧
      disk.kind? (newPlace ++ [newName]) ≠ some .folder := by
  unfold rename at h
  obtain ⟨_, _, h⟩ := Except.do_ok_iff.1 h
  obtain ⟨_, _, h⟩ := Except.do_ok_iff.1 h
  obtain ⟨_ | ⟨place, name⟩, hsource, h⟩ := Except.do_ok_iff.1 h
  · obtain ⟨_, _, h⟩ := Except.do_ok_iff.1 h
    cases h
  obtain ⟨_ | ⟨newPlace, newName⟩, hdestination, h⟩ := Except.do_ok_iff.1 h
  · cases h
  obtain ⟨node?, hlook, h⟩ := Except.do_ok_iff.1 h
  obtain ⟨newNode?, hnewLook, h⟩ := Except.do_ok_iff.1 h
  obtain ⟨hshort, hkind⟩ := look_ok (target_entry hsource) hlook
  obtain ⟨hnewShort, hnewKind⟩ := look_ok (target_entry hdestination) hnewLook
  rcases node? with _ | content | entries
  · cases h
  · dsimp only at h
    split at h
    · cases h
    · rename_i hslash
      simp only [Bool.or_eq_true, not_or, Bool.not_eq_true] at hslash
      refine ⟨place, name, newPlace, newName, content, hsource, hdestination, hslash,
        ⟨hshort, hnewShort⟩, hkind, ?_⟩
      rw [hnewKind]
      rcases newNode? with _ | found | entries
      · exact nofun
      · exact nofun
      · cases h
  · cases h

/-- A file is found under the path that it is given. -/
theorem rename_ok {source destination : Path} (h : disk.rename source destination = .ok after) :
    ∃ place name, disk.target destination = .ok (.entry place name) ∧
      (disk.spot source ≠ disk.spot destination → ∃ content, disk.read source = .ok content ∧
        after.target destination = .ok (.entry place name) ∧ after.read destination = .ok content) := by
  obtain ⟨place, name, newPlace, newName, content, hsource, hdestination, ⟨hslash, hnewSlash⟩,
    ⟨hshort, hnewShort⟩, hkind, hfree⟩ := file_of_rename h
  refine ⟨newPlace, newName, hdestination, fun hother => ?_⟩
  rw [spot_of_target hsource, spot_of_target hdestination] at hother
  obtain ⟨between, changed, hchanged, hgone, hnew⟩ := rename_of_file hsource hdestination
    hslash hnewSlash hshort hnewShort hkind hfree hother.symm
  rw [h] at hchanged
  cases hchanged
  have hspot : disk.kind? (place ++ [name]) ≠ some .folder := by simp [hkind]
  have hbetween : between.kind? (newPlace ++ [newName]) ≠ some .folder := by
    rw [hgone.kind?, if_neg hother.symm]
    exact hfree
  have htarget := (hnew.under hbetween nofun).target_ok
    ((hgone.under hspot nofun).target_ok hdestination)
  refine ⟨content, ?_, htarget, ?_⟩
  · rw [read_ok_iff, sight_of_target hsource, sightAt_entry_ok_iff, hslash]
    exact ⟨hshort, hkind, nofun⟩
  · rw [read_ok_iff, sight_of_target htarget, sightAt_entry_ok_iff, hnewSlash, hnew.kind?, if_pos rfl]
    exact ⟨hnewShort, rfl, nofun⟩

end Disk

/-! ## What is written until then -/

namespace Storage

/-- A disk on which no more was written than the log and the file of the new snapshot, with the
directories on the way to the log and to the snapshot. -/
structure Wrote (storage : Storage) (disk after : Disk) : Prop where
  working : after.working = disk.working
  folder : ∀ spot, disk.kind? spot = some .folder → after.kind? spot = some .folder
  file : ∀ spot content, disk.kind? spot = some (.file content) →
    ∃ content', after.kind? spot = some (.file content')
  same : ∀ spot content, spot ≠ disk.spot storage.events → spot ≠ disk.spot storage.temporary →
    (after.kind? spot = some (.file content) ↔ disk.kind? spot = some (.file content))
  made : ∀ spot, after.kind? spot = some .folder → disk.kind? spot = some .folder ∨
    disk.OnWay storage.events spot ∨ disk.OnWay storage.snapshot spot

variable {storage : Storage} {disk after further : Disk} {path : Path} {registry : Registry}
  {error : Error}

namespace Wrote

theorem refl (storage : Storage) (disk : Disk) : storage.Wrote disk disk :=
  ⟨rfl, fun _ h => h, fun _ content h => ⟨content, h⟩, fun _ _ _ _ => Iff.rfl, fun _ h => Or.inl h⟩

theorem start (h : storage.Wrote disk after) (path : Path) : after.start path = disk.start path := by
  unfold Disk.start
  rw [h.working]

theorem spot (h : storage.Wrote disk after) (path : Path) : after.spot path = disk.spot path := by
  unfold Disk.spot
  rw [h.start]

theorem onWay (h : storage.Wrote disk after) {spot : List String} (hway : after.OnWay path spot) :
    disk.OnWay path spot := by
  obtain ⟨names, later, hsegments, hlater, hspot⟩ := hway
  exact ⟨names, later, hsegments, hlater, h.start path ▸ hspot⟩

theorem under (h : storage.Wrote disk after) : Disk.Under disk after := by
  refine ⟨h.working, h.folder, fun spot hfolder => ?_⟩
  cases hkind : disk.kind? spot with
  | none => exact Or.inr rfl
  | some kind =>
    cases kind with
    | folder => exact Or.inl rfl
    | file content =>
      obtain ⟨content', hfile⟩ := h.file spot content hkind
      rw [hfolder] at hfile
      cases hfile

theorem trans (h : storage.Wrote disk after) (h' : storage.Wrote after further) :
    storage.Wrote disk further := by
  refine ⟨h'.working.trans h.working, fun spot hfolder => h'.folder spot (h.folder spot hfolder),
    fun spot content hfile => ?_, fun spot content hlog htemporary => ?_, fun spot hfolder => ?_⟩
  · obtain ⟨content', hfile'⟩ := h.file spot content hfile
    exact h'.file spot content' hfile'
  · rw [h'.same spot content (h.spot storage.events ▸ hlog) (h.spot storage.temporary ▸ htemporary)]
    exact h.same spot content hlog htemporary
  · rcases h'.made spot hfolder with hbefore | hway | hway
    · exact h.made spot hbefore
    · exact Or.inr (Or.inl (h.onWay hway))
    · exact Or.inr (Or.inr (h.onWay hway))

/-- Making a directory around the log or the snapshot. -/
theorem of_makeDirectory {parent outer : Path} (hpath : path = storage.events ∨ path = storage.snapshot)
    (hparent : path.parent? = some parent) (haround : parent.Around outer)
    (h : disk.makeDirectory outer = .ok after) : storage.Wrote disk after := by
  obtain ⟨place, name, htarget, _, hnone, hchanged⟩ := Disk.makeDirectory_ok h
  have hgrown := Disk.Grown.of_makeDirectory h
  have hway := Disk.onWay_of_around hparent haround htarget
  refine ⟨hchanged.working, hgrown.under.folder, fun spot content hfile => ?_, fun spot content _ _ => ?_,
    fun spot hfolder => ?_⟩
  · rcases hgrown.kind? spot with hsame | ⟨hnone, _⟩
    · exact ⟨content, hsame.trans hfile⟩
    · rw [hfile] at hnone
      cases hnone
  · rcases hgrown.kind? spot with hsame | ⟨hnone, hfolder⟩
    · rw [hsame]
    · rw [hnone, hfolder]
      exact iff_of_false nofun nofun
  · rw [hchanged.kind?] at hfolder
    split at hfolder
    · rename_i hspot
      subst hspot
      rcases hpath with rfl | rfl
      · exact Or.inr (Or.inl hway)
      · exact Or.inr (Or.inr hway)
    · exact Or.inl hfolder

/-- Writing to the log or to the file of the new snapshot. -/
theorem of_writable {place : List String} {name : String} {before : Bytes}
    (hpath : path = storage.events ∨ path = storage.temporary)
    (h : disk.writable path = .ok (place, name, before)) (content : Bytes) :
    storage.Wrote disk (disk.update place (·.set name (.file content))) := by
  obtain ⟨htarget, _⟩ := Disk.writable_ok_iff.1 h
  have hchanged := Disk.writable_changedAt h content
  have hspot := Disk.not_folder_of_writable h
  have hunder := hchanged.under hspot nofun
  refine ⟨hchanged.working, hunder.folder, fun spot found hfile => ?_, fun spot found hlog htemporary => ?_,
    fun spot hfolder => Or.inl ((hchanged.folder_iff hspot nofun spot).1 hfolder)⟩
  · rw [hchanged.kind?]
    split
    · exact ⟨content, rfl⟩
    · exact ⟨found, hfile⟩
  · rw [hchanged.kind?, if_neg]
    rw [← Disk.spot_of_target htarget]
    rcases hpath with rfl | rfl
    · exact hlog
    · exact htemporary

end Wrote

theorem makeRoom_wrote (disk : Disk) (hpath : path = storage.events ∨ path = storage.snapshot) :
    storage.Wrote disk (disk.run (makeRoom path)).2 :=
  Disk.run_makeRoom_preserves (fun _ _ hparent haround _ _ hwrote hmade =>
    hwrote.trans (.of_makeDirectory hpath hparent haround hmade)) (.refl storage disk)

theorem prepare_wrote (storage : Storage) (disk : Disk) :
    storage.Wrote disk (disk.run storage.prepare).2 :=
  Disk.run_bind_preserves (makeRoom_wrote disk (Or.inl rfl)) fun _ next hwrote =>
    hwrote.trans (makeRoom_wrote next (Or.inr rfl))

theorem appendEvent_wrote (storage : Storage) (event : Event) (disk : Disk) :
    storage.Wrote disk (disk.run (storage.appendEvent event)).2 := by
  refine Disk.run_bind_preserves (storage.prepare_wrote disk) fun _ next hwrote => ?_
  cases hrun : next.run (attempt .appendEvent (FileOperations.append storage.events event.record)) with
  | mk result after =>
    rcases result with error | _
    · obtain ⟨_, _, _, rfl⟩ := Disk.run_attempt_change_error_iff.1 hrun
      exact hwrote
    · obtain ⟨place, name, before, hwritable, rfl⟩ :=
        Disk.append_ok_iff.1 (Disk.run_attempt_change_ok_iff.1 hrun)
      exact hwrote.trans (.of_writable (Or.inl rfl) hwritable _)

theorem appendEvents_wrote (storage : Storage) (events : List Event) (disk : Disk) :
    storage.Wrote disk (disk.run (events.forM storage.appendEvent)).2 := by
  induction events generalizing disk with
  | nil => exact .refl storage disk
  | cons event events ih =>
    exact Disk.run_bind_preserves (storage.appendEvent_wrote event disk) fun _ next hwrote =>
      hwrote.trans (ih next)

/-- What was replaced all the same: the directory of a path that names none is not found. -/
structure Late (storage : Storage) (registry : Registry) (error : Error) (after : Disk) : Prop where
  bare : storage.snapshot.parent? = some .empty
  error_eq : error = .state (.file .openParent .notFound)
  read : after.read storage.snapshot = .ok registry.toBytes

/-- What fails, fails before the snapshot is replaced, or it fails on the directory around it. -/
theorem persist_error (h : disk.run (storage.persist registry) = (.error error, after)) :
    storage.Wrote disk after ∨ storage.Late registry error after := by
  have hwrote := storage.prepare_wrote disk
  rcases Disk.run_bind_error_iff.1 h with hfail | ⟨_, made, hmade, h⟩
  · rw [hfail] at hwrote
    exact Or.inl hwrote
  rw [hmade] at hwrote
  rcases Disk.run_bind_error_iff.1 h with hfail | ⟨_, written, hwritten, h⟩
  · obtain ⟨_, _, _, rfl⟩ := Disk.run_attempt_change_error_iff.1 hfail
    exact Or.inl hwrote
  obtain ⟨place, name, before, hwritable, rfl⟩ :=
    Disk.write_ok_iff.1 (Disk.run_attempt_change_ok_iff.1 hwritten)
  rcases Disk.run_bind_error_iff.1 h with hfail | ⟨_, renamed, hrenamed, h⟩
  · obtain ⟨_, _, _, rfl⟩ := Disk.run_attempt_change_error_iff.1 hfail
    exact Or.inl (hwrote.trans (.of_writable (Or.inr rfl) hwritable _))
  -- From here on the snapshot is the new one.
  obtain ⟨newPlace, newName, hsnapshot, hfound⟩ :=
    Disk.rename_ok (Disk.run_attempt_change_ok_iff.1 hrenamed)
  obtain ⟨content, htemporary, htarget, hread⟩ := hfound (Disk.spot_temporary_ne hsnapshot)
  rw [Disk.read_ok_iff, Disk.sight_written hwritable] at htemporary
  cases htemporary
  split at h
  · rename_i parent hparent
    rw [Disk.run_attempt_touch] at h
    by_cases hempty : parent = .empty
    · subst hempty
      cases h
      exact Or.inr ⟨hparent, rfl, hread⟩
    · rw [Disk.parent_sight htarget hparent hempty] at h
      cases h
  · cases h

theorem commit_error {events : List Event}
    (h : disk.run (storage.commit registry events) = (.error error, after)) :
    storage.Wrote disk after ∨ storage.Late registry error after := by
  have hwrote := storage.appendEvents_wrote events disk
  rcases Disk.run_bind_error_iff.1 h with hfail | ⟨_, logged, hlogged, h⟩
  · rw [hfail] at hwrote
    exact Or.inl hwrote
  · rw [hlogged] at hwrote
    rcases persist_error h with hrest | hlate
    · exact Or.inl (hwrote.trans hrest)
    · exact Or.inr hlate

/-! ## What the path of the snapshot leads to -/

/-- What the snapshot was is not changed by writing elsewhere. -/
theorem Wrote.sight_ok {kind : Kind} (h : storage.Wrote disk after)
    (hother : disk.spot storage.events ≠ disk.spot storage.snapshot)
    (hsight : disk.sight storage.snapshot = .ok kind) : after.sight storage.snapshot = .ok kind := by
  obtain ⟨target, htarget, hkind⟩ := Except.bind_ok_iff.1 hsight
  rw [Disk.sight_of_target (h.under.target_ok htarget)]
  cases target with
  | folder place => exact hkind
  | entry place name =>
    have htemporary := Disk.spot_temporary_ne htarget
    rw [Disk.spot_of_target htarget] at hother htemporary
    obtain ⟨hshort, hspot, hslash⟩ := Disk.sightAt_entry_ok_iff.1 hkind
    refine Disk.sightAt_entry_ok_iff.2 ⟨hshort, ?_, hslash⟩
    cases kind with
    | folder => exact h.folder _ hspot
    | file content => exact (h.same _ content hother.symm htemporary.symm).2 hspot

/-- A path of the snapshot on which nothing turns up when directories are made: it takes no way
back, and the log is not below the snapshot. -/
structure Straight (storage : Storage) (disk : Disk) : Prop where
  forward : ".." ∉ disk.start storage.snapshot ++ storage.snapshot.segments
  beside : ¬ disk.OnWay storage.events (disk.spot storage.snapshot)

theorem Wrote.folder_of_straight (h : storage.Wrote disk after) (hstraight : storage.Straight disk)
    (hfolder : after.kind? (disk.spot storage.snapshot) = some .folder) :
    disk.kind? (disk.spot storage.snapshot) = some .folder := by
  rcases h.made _ hfolder with hbefore | hway | hway
  · exact hbefore
  · exact absurd hway hstraight.beside
  · have hsegments : ".." ∉ storage.snapshot.segments := fun hdots =>
      hstraight.forward (List.mem_append_right _ hdots)
    exact absurd hway (Disk.spot_not_onWay hsegments)

/-- On a straight path no snapshot turns up. -/
theorem Wrote.sight_of {kind : Kind} (h : storage.Wrote disk after)
    (hother : disk.spot storage.events ≠ disk.spot storage.snapshot) (hstraight : storage.Straight disk)
    (hsight : after.sight storage.snapshot = .ok kind) : disk.sight storage.snapshot = .ok kind := by
  obtain ⟨target, htarget, hkind⟩ := Except.bind_ok_iff.1 hsight
  have haccept := (Disk.target_ok_iff.1 htarget).1
  cases kind with
  | folder =>
    by_cases hsegments : storage.snapshot.segments = []
    · have hroot : disk.target storage.snapshot = .ok (.folder []) :=
        Disk.target_ok_iff.2 ⟨haccept, by simp [hsegments]⟩
      rw [Disk.sight_of_target hroot]
      rfl
    · obtain ⟨_, place, hwalk⟩ := (Disk.sight_folder_iff hsegments).1 hsight
      have hfolder := Disk.walk_folder (Disk.kind?_root after) hwalk
      rw [h.start] at hwalk
      have hspot : place = disk.spot storage.snapshot := Disk.turns_of_walk hwalk
      rw [hspot] at hfolder hwalk
      exact (Disk.sight_folder_iff hsegments).2 ⟨haccept, _,
        Disk.walk_of_folder hstraight.forward hwalk (h.folder_of_straight hstraight hfolder)⟩
  | file content =>
    cases target with
    | folder place => cases hkind
    | entry place name =>
      have htemporary := Disk.spot_temporary_ne htarget
      have hspot := Disk.spot_of_target htarget
      rw [h.spot, h.spot] at htemporary
      rw [h.spot] at hspot
      rw [hspot] at hother htemporary
      obtain ⟨hshort, hafter, hslash⟩ := Disk.sightAt_entry_ok_iff.1 hkind
      have hbefore := (h.same _ content hother.symm htemporary.symm).1 hafter
      have hplace := Disk.kind?_around hbefore (List.cons_ne_nil name [])
      rw [Disk.sight_of_target (Disk.target_of_folder h.working hstraight.forward htarget hplace)]
      exact Disk.sightAt_entry_ok_iff.2 ⟨hshort, hbefore, hslash⟩

end Storage

/-! ## Failing -/

section Failing

variable {storage : Storage} {disk after : Disk} {registry : Registry} {events : List Event}
  {error : Error}

/-- A snapshot that is what it was: there or not, with the bytes that it had, and the same to
load. -/
structure Storage.LeftInPlace (storage : Storage) (disk after : Disk) : Prop where
  isThere : after.isThere storage.snapshot = disk.isThere storage.snapshot
  read : ∀ content,
    after.read storage.snapshot = .ok content ↔ disk.read storage.snapshot = .ok content
  loaded : (after.run storage.loadSnapshot).1 = (disk.run storage.loadSnapshot).1

theorem Storage.LeftInPlace.of_sight
    (h : ∀ kind, after.sight storage.snapshot = .ok kind ↔ disk.sight storage.snapshot = .ok kind) :
    storage.LeftInPlace disk after := by
  refine ⟨?_, fun content => ?_, ?_⟩
  · rw [Bool.eq_iff_iff, Disk.isThere_iff, Disk.isThere_iff]
    exact exists_congr h
  · rw [Disk.read_ok_iff, Disk.read_ok_iff]
    exact h _
  · rw [Disk.run_loadSnapshot, Disk.run_loadSnapshot]
    unfold Disk.kept
    cases hafter : after.sight storage.snapshot with
    | ok kind => rw [(h kind).1 hafter]
    | error fault =>
      cases hbefore : disk.sight storage.snapshot with
      | error fault => rfl
      | ok kind =>
        rw [(h kind).2 hbefore] at hafter
        cases hafter

/-- Where replacing the snapshot fails, by itself or behind the events of a call, the snapshot is
left as it was, unless its path names no directory: then all is replaced before the failure. A
log in the place of the snapshot is left out. A snapshot that is not there stays away if its
path is straight. -/
theorem what_fails_leaves_the_snapshot_in_place
    (h : disk.run (storage.persist registry) = (.error error, after) ∨
      disk.run (storage.commit registry events) = (.error error, after))
    (hother : disk.spot storage.events ≠ disk.spot storage.snapshot)
    (hsettled : disk.isThere storage.snapshot = true ∨ storage.Straight disk) :
    storage.LeftInPlace disk after ∨ storage.Late registry error after := by
  have hfailed : storage.Wrote disk after ∨ storage.Late registry error after := by
    rcases h with h | h
    · exact Storage.persist_error h
    · exact Storage.commit_error h
  rcases hfailed with hwrote | hlate
  · refine Or.inl (.of_sight fun kind => ⟨fun hafter => ?_, hwrote.sight_ok hother⟩)
    rcases hsettled with hthere | hstraight
    · obtain ⟨found, hfound⟩ := Disk.isThere_iff.1 hthere
      rw [hwrote.sight_ok hother hfound] at hafter
      rw [hfound, hafter]
    · exact hwrote.sight_of hother hstraight hafter
  · exact Or.inr hlate

/-- A disk on which a directory is in the way of a new snapshot. -/
def Disk.blocked (log content : Bytes) : Disk :=
  ⟨[("home", .folder [("data", .folder [("events.log", .file log), ("tickets.bin", .file content),
    ("tickets.bin.tmp", .folder [])])])], ["home"]⟩

theorem persist_blocked (log content : Bytes) (registry : Registry) :
    (Disk.blocked log content).run (Storage.inData.persist registry) =
      (.error (.state (.file .createTemporary .isDirectory)), Disk.blocked log content) := by
  have hprepare : (Disk.blocked log content).run Storage.inData.prepare =
      (.ok (), Disk.blocked log content) := rfl
  refine (Disk.run_bind_of_ok hprepare).trans (Disk.run_bind_error_iff.2 (Or.inl ?_))
  exact Disk.run_attempt_change_error_iff.2 ⟨_, rfl, rfl, rfl⟩

theorem commit_blocked (log content : Bytes) (registry : Registry) (event : Event) :
    (Disk.blocked log content).run (Storage.inData.commit registry [event]) =
      (.error (.state (.file .createTemporary .isDirectory)),
        Disk.blocked (log ++ event.record) content) := by
  have hprepare : (Disk.blocked log content).run Storage.inData.prepare =
      (.ok (), Disk.blocked log content) := rfl
  have happend : (Disk.blocked log content).run (Storage.inData.appendEvent event) =
      (.ok (), Disk.blocked (log ++ event.record) content) := by
    refine (Disk.run_bind_of_ok hprepare).trans ?_
    exact Disk.run_attempt_change_ok_iff.2 rfl
  have happends : (Disk.blocked log content).run ([event].forM Storage.inData.appendEvent) =
      (.ok (), Disk.blocked (log ++ event.record) content) := (Disk.run_bind_of_ok happend).trans rfl
  exact (Disk.run_bind_of_ok happends).trans (persist_blocked _ content registry)

/-- The event is in the log, and the snapshot is the one before the call. -/
theorem a_blocked_snapshot_is_left_in_place :
    ∃ after, (Disk.blocked [] [1]).run (Storage.inData.commit .empty [.canceled .ones]) =
        (.error (.state (.file .createTemporary .isDirectory)), after) ∧
      Storage.inData.LeftInPlace (Disk.blocked [] [1]) after := by
  have hcommit := commit_blocked [] [1] .empty (.canceled .ones)
  refine ⟨_, hcommit, ?_⟩
  rcases what_fails_leaves_the_snapshot_in_place (Or.inr hcommit) (by decide) (Or.inl rfl) with
    hleft | hlate
  · exact hleft
  · exact absurd hlate.bare (by decide)

/-- Storage with the snapshot in the working directory itself. -/
def Storage.bare : Storage := ⟨⟨["data", "events.log"]⟩, ⟨["tickets.bin"]⟩⟩

/-- The log and the snapshot are two files, no snapshot is there, and replacing it fails. What is
loaded then is the new one, with its ticket. -/
theorem a_bare_snapshot_was_replaced :
    let registry := Registry.empty.put .zero .plain
    (Disk.blank "home").spot Storage.bare.events ≠ (Disk.blank "home").spot Storage.bare.snapshot ∧
      ∃ after, (Disk.blank "home").run (Storage.bare.persist registry) =
          (.error (.state (.file .openParent .notFound)), after) ∧
        ((Disk.blank "home").run Storage.bare.loadSnapshot).1 = .ok none ∧
        (after.run Storage.bare.loadSnapshot).1 = .ok (some registry) :=
  ⟨by decide, _, rfl, rfl, rfl⟩

end Failing

end RetryTickets
