-- Making directories adds folders where nothing was, and leaves all else as it
-- is. What a path leads to stays where it leads while folders are added.
import RetryTickets.Proofs.Files

namespace RetryTickets

/-- A path and the paths of the directories around it, as they are made before it. -/
def Path.Around (path outer : Path) : Prop :=
  outer = path ∨ ∃ shorter, shorter <+: path.body ∧ outer = .ofParts path.front shorter

namespace Disk

variable {disk made grown : Disk} {path : Path} {place : List String} {name : String}

/-! ## Folders on the way -/

/-- A disk all of whose folders are on another one too, and on which no file is in the way of
the folders of that one. -/
structure Under (disk made : Disk) : Prop where
  working : made.working = disk.working
  folder : ∀ place, disk.kind? place = some .folder → made.kind? place = some .folder
  clear : ∀ place, made.kind? place = some .folder →
    disk.kind? place = some .folder ∨ disk.kind? place = none

namespace Under

theorem start (h : Under disk made) (path : Path) : made.start path = disk.start path := by
  unfold Disk.start
  rw [h.working]

theorem pass_ok {next : List String} (h : Under disk made) (hpass : disk.pass place name = .ok next) :
    made.pass place name = .ok next := by
  rw [pass_ok_iff] at hpass ⊢
  rcases hpass with hidle | hout | ⟨hidle, hout, hshort, hkind, hnext⟩
  · exact Or.inl hidle
  · exact Or.inr (Or.inl hout)
  · exact Or.inr (Or.inr ⟨hidle, hout, hshort, h.folder _ hkind, hnext⟩)

theorem pass_of {next : List String} (h : Under disk made) (hpass : made.pass place name = .ok next) :
    disk.pass place name = .ok next ∨ disk.pass place name = .error .notFound := by
  rw [pass_ok_iff] at hpass
  rcases hpass with hidle | hout | ⟨hidle, hout, hshort, hkind, hnext⟩
  · exact Or.inl (pass_ok_iff.2 (Or.inl hidle))
  · exact Or.inl (pass_ok_iff.2 (Or.inr (Or.inl hout)))
  · rcases h.clear _ hkind with hkind | hkind
    · exact Or.inl (pass_ok_iff.2 (Or.inr (Or.inr ⟨hidle, hout, hshort, hkind, hnext⟩)))
    · exact Or.inr (pass_of_none hidle hout hshort hkind)

theorem walk_ok {names last : List String} (h : Under disk made)
    (hwalk : disk.walk place names = .ok last) : made.walk place names = .ok last := by
  induction names generalizing place with
  | nil => exact hwalk
  | cons name names ih =>
    rw [walk_cons_ok_iff] at hwalk ⊢
    obtain ⟨next, hpass, hwalk⟩ := hwalk
    exact ⟨next, h.pass_ok hpass, ih hwalk⟩

/-- Only a missing folder stops a walk that goes through on the other disk. -/
theorem walk_of {names last : List String} (h : Under disk made)
    (hwalk : made.walk place names = .ok last) :
    disk.walk place names = .ok last ∨ disk.walk place names = .error .notFound := by
  induction names generalizing place with
  | nil => exact Or.inl hwalk
  | cons name names ih =>
    obtain ⟨next, hpass, hwalk⟩ := walk_cons_ok_iff.1 hwalk
    rw [walk_cons]
    rcases h.pass_of hpass with hpass | hpass
    · rw [hpass]
      exact ih hwalk
    · rw [hpass]
      exact Or.inr rfl

theorem target_ok {target : Target} (h : Under disk made) (htarget : disk.target path = .ok target) :
    made.target path = .ok target := by
  rw [target_ok_iff] at htarget ⊢
  obtain ⟨haccept, htarget⟩ := htarget
  refine ⟨haccept, ?_⟩
  rw [h.start path]
  split
  · simpa [*] using htarget
  · rename_i hlast
    rw [hlast] at htarget
    obtain ⟨place, hwalk, htarget⟩ := htarget
    exact ⟨place, h.walk_ok hwalk, htarget⟩

theorem target_of {target : Target} (h : Under disk made) (htarget : made.target path = .ok target) :
    disk.target path = .ok target ∨ disk.target path = .error .notFound := by
  obtain ⟨haccept, htarget⟩ := target_ok_iff.1 htarget
  rw [h.start path] at htarget
  rw [target_eq, haccept]
  simp only [Except.bind]
  split
  · rename_i hlast
    rw [hlast] at htarget
    exact Or.inl (congrArg Except.ok htarget.symm)
  · rename_i hlast
    rw [hlast] at htarget
    obtain ⟨place, hwalk, rfl⟩ := htarget
    rcases h.walk_of hwalk with hwalk | hwalk
    · rw [hwalk]
      exact Or.inl rfl
    · rw [hwalk]
      exact Or.inr rfl

end Under

/-- Where a file comes, goes or changes, no folder does. -/
theorem ChangedAt.folder_iff {changed : Disk} {spot : List String} {kind? : Option Kind}
    (h : ChangedAt disk changed spot kind?) (hspot : disk.kind? spot ≠ some .folder)
    (hkind : kind? ≠ some .folder) (other : List String) :
    changed.kind? other = some .folder ↔ disk.kind? other = some .folder := by
  rw [h.kind?]
  split
  · rename_i hother
    rw [hother]
    exact iff_of_false hkind hspot
  · rfl

/-- A file in the place of another one, or of nothing, is in nobody's way. -/
theorem ChangedAt.under {changed : Disk} {spot : List String} {kind? : Option Kind}
    (h : ChangedAt disk changed spot kind?) (hspot : disk.kind? spot ≠ some .folder)
    (hkind : kind? ≠ some .folder) : Under disk changed :=
  ⟨h.working, fun other hfolder => (h.folder_iff hspot hkind other).2 hfolder,
    fun other hfolder => Or.inl ((h.folder_iff hspot hkind other).1 hfolder)⟩

/-! ## Growing -/

/-- A disk and the same disk with more folders on it, where nothing was before. -/
structure Grown (disk grown : Disk) : Prop where
  working : grown.working = disk.working
  kind? : ∀ place, grown.kind? place = disk.kind? place ∨
    (disk.kind? place = none ∧ grown.kind? place = some .folder)

namespace Grown

theorem refl (disk : Disk) : Grown disk disk := ⟨rfl, fun _ => Or.inl rfl⟩

theorem trans {further : Disk} (h : Grown disk grown) (h' : Grown grown further) :
    Grown disk further := by
  refine ⟨h'.working.trans h.working, fun place => ?_⟩
  rcases h.kind? place with hsame | ⟨hnone, hfolder⟩
  · rw [← hsame]
    exact h'.kind? place
  · rcases h'.kind? place with hsame' | ⟨hnone', _⟩
    · exact Or.inr ⟨hnone, hsame'.trans hfolder⟩
    · rw [hfolder] at hnone'
      cases hnone'

theorem under (h : Grown disk grown) : Under disk grown := by
  refine ⟨h.working, fun place hfolder => ?_, fun place hfolder => ?_⟩
  · rcases h.kind? place with hsame | ⟨_, hfolder'⟩
    · rw [hsame, hfolder]
    · exact hfolder'
  · rcases h.kind? place with hsame | ⟨hnone, _⟩
    · exact Or.inl (hsame.symm.trans hfolder)
    · exact Or.inr hnone

/-- What a path leads to is not lost while folders are added. -/
theorem sight_ok {kind : Kind} (h : Grown disk grown) (hsight : disk.sight path = .ok kind) :
    grown.sight path = .ok kind := by
  unfold sight at hsight ⊢
  obtain ⟨target, htarget, hsight⟩ := Except.bind_ok_iff.1 hsight
  refine Except.bind_ok_iff.2 ⟨target, h.under.target_ok htarget, ?_⟩
  cases target with
  | folder place => exact hsight
  | entry place name =>
    obtain ⟨hshort, hspot, hslash⟩ := sightAt_entry_ok_iff.1 hsight
    refine sightAt_entry_ok_iff.2 ⟨hshort, ?_, hslash⟩
    rcases h.kind? (place ++ [name]) with hsame | ⟨hnone, _⟩
    · rw [hsame, hspot]
    · rw [hspot] at hnone
      cases hnone

theorem of_makeDirectory (h : disk.makeDirectory path = .ok grown) : Grown disk grown := by
  obtain ⟨place, name, _, _, hnone, hchanged⟩ := makeDirectory_ok h
  refine ⟨hchanged.working, fun other => ?_⟩
  rw [hchanged.kind?]
  split
  · rename_i hother
    exact Or.inr ⟨by rw [hother, hnone], rfl⟩
  · exact Or.inl rfl

end Grown

end Disk

/-! ## Making directories -/

namespace OnDisk

open FileOperations

variable {path : Path} {outer : Unit → OnDisk (Except FileFault Unit)} {disk : Disk}

theorem bind_run {α β : Type} (x : OnDisk α) (f : α → OnDisk β) (disk : Disk) :
    (x >>= f) disk = f (x disk).1 (x disk).2 := rfl

theorem makeDirectory_run (path : Path) (disk : Disk) :
    (makeDirectory path : OnDisk (Except FileFault Unit)) disk =
      match disk.makeDirectory path with
      | .ok made => (.ok (), made)
      | .error fault => (.error fault, disk) := rfl

/-- What is told when a directory could not be made. -/
def settled (disk : Disk) (path : Path) (fault : FileFault) : Except FileFault Unit :=
  if disk.isDirectory path then .ok () else .error fault

theorem settle_run (path : Path) (fault : FileFault) (disk : Disk) :
    (settle path (.error fault) : OnDisk _) disk = (settled disk path fault, disk) := by
  unfold settle
  dsimp only
  rw [bind_run]
  show (if disk.isDirectory path then pure (Except.ok ()) else pure (Except.error fault) : OnDisk _) disk = _
  unfold settled
  split <;> rfl

theorem makeWithin_run (path : Path) (outer : Unit → OnDisk (Except FileFault Unit)) (disk : Disk) :
    makeWithin path outer disk =
      match disk.makeDirectory path with
      | .ok made => (.ok (), made)
      | .error .notFound =>
        match outer () disk with
        | (.error fault, further) => (.error fault, further)
        | (.ok (), further) =>
          match further.makeDirectory path with
          | .ok made => (.ok (), made)
          | .error fault => (settled further path fault, further)
      | .error fault => (settled disk path fault, disk) := by
  unfold makeWithin
  rw [bind_run, makeDirectory_run]
  cases disk.makeDirectory path with
  | ok made => rfl
  | error fault =>
    cases fault with
    | notFound =>
      dsimp only
      rw [bind_run]
      rcases outer () disk with ⟨fault | u, further⟩
      · rfl
      · dsimp only
        rw [bind_run, makeDirectory_run]
        cases further.makeDirectory path with
        | ok made => rfl
        | error fault => exact settle_run path fault further
    | _ => exact settle_run path _ disk

/-- What holds of a disk and withstands the making of a directory, and of those around it, still
holds when they are made. -/
theorem makeWithin_preserves {I : Disk → Prop}
    (hmake : ∀ disk made, I disk → disk.makeDirectory path = .ok made → I made)
    (houter : ∀ disk, I disk → I (outer () disk).2) (h : I disk) :
    I (makeWithin path outer disk).2 := by
  rw [makeWithin_run]
  split
  · rename_i made hmade
    exact hmake disk made h hmade
  · have hfurther := houter disk h
    split
    · rename_i hrun
      rw [hrun] at hfurther
      exact hfurther
    · rename_i further hrun
      rw [hrun] at hfurther
      split
      · rename_i made hmade
        exact hmake further made hfurther hmade
      · exact hfurther
  · exact h

theorem makeOutward_preserves {I : Disk → Prop} {front reversed : List String}
    (hmake : ∀ shorter, shorter <+: reversed.reverse → ∀ disk made, I disk →
      disk.makeDirectory (.ofParts front shorter) = .ok made → I made)
    (h : I disk) : I ((makeOutward front reversed : OnDisk _) disk).2 := by
  induction reversed generalizing disk with
  | nil =>
    unfold makeOutward
    split
    · exact h
    · exact makeWithin_preserves (hmake [] List.nil_prefix) (fun _ h => h) h
  | cons name rest ih =>
    have hrest : ∀ shorter, shorter <+: rest.reverse → shorter <+: (name :: rest).reverse := by
      intro shorter hbegins
      rw [List.reverse_cons]
      exact hbegins.trans (List.prefix_append _ _)
    have houter : ∀ disk, I disk → I ((makeOutward front rest : OnDisk _) disk).2 := fun disk h =>
      ih (fun shorter hbegins => hmake shorter (hrest shorter hbegins)) h
    unfold makeOutward
    split
    · exact houter disk h
    · exact makeWithin_preserves (hmake _ List.prefix_rfl) houter h

theorem makeDirectories_preserves {I : Disk → Prop}
    (hmake : ∀ outer, path.Around outer → ∀ disk made, I disk →
      disk.makeDirectory outer = .ok made → I made)
    (h : I disk) : I ((makeDirectories path : OnDisk _) disk).2 := by
  unfold makeDirectories
  split
  · exact h
  · refine makeWithin_preserves (hmake path (Or.inl rfl)) (fun disk h => ?_) h
    refine makeOutward_preserves (fun shorter hbegins => hmake _ (Or.inr ⟨shorter, ?_, rfl⟩)) h
    have hsuffix : (path.body.reverse.dropWhile Path.isIdle).tail <:+ path.body.reverse :=
      (List.tail_suffix _).trans (List.dropWhile_suffix _)
    rw [← List.reverse_reverse path.body]
    exact hbegins.trans (List.reverse_prefix.2 hsuffix)

theorem makeDirectories_grown (path : Path) (disk : Disk) :
    Disk.Grown disk ((makeDirectories path : OnDisk _) disk).2 :=
  makeDirectories_preserves (fun _ _ _ _ hgrown hmade => hgrown.trans (.of_makeDirectory hmade))
    (.refl disk)

end OnDisk

end RetryTickets
