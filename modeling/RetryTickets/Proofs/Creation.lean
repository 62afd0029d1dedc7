-- When directories can be made: where another disk, with more folders and no
-- other difference in their way, has them all, making them goes through.
import RetryTickets.Proofs.Directories
import RetryTickets.Proofs.Paths

namespace RetryTickets

namespace Disk

variable {disk made : Disk} {path : Path}

/-- A directory that was made is there. -/
theorem sight_of_makeDirectory {next : Disk} (h : disk.makeDirectory path = .ok next) :
    next.sight path = .ok .folder := by
  obtain ⟨place, name, htarget, hshort, _, hchanged⟩ := makeDirectory_ok h
  have hnow := hchanged.kind? (place ++ [name])
  rw [if_pos rfl] at hnow
  rw [sight_of_target ((Grown.of_makeDirectory h).under.target_ok htarget), sightAt_entry_folder_iff]
  exact ⟨hshort, hnow⟩

/-- A directory that another disk has can be made without more than that one has. -/
theorem under_of_makeDirectory {next : Disk} (hunder : Under disk made)
    (hmade : made.sight path = .ok .folder) (h : disk.makeDirectory path = .ok next) :
    Under next made := by
  obtain ⟨place, name, htarget, hshort, hnone, hchanged⟩ := makeDirectory_ok h
  have hkind : made.kind? (place ++ [name]) = some .folder := by
    rw [sight_of_target (hunder.target_ok htarget), sightAt_entry_folder_iff] at hmade
    exact hmade.2
  refine ⟨hunder.working.trans hchanged.working.symm, fun other hother => ?_, fun other hother => ?_⟩
  · rw [hchanged.kind?] at hother
    split at hother
    · rename_i hspot
      rw [hspot, hkind]
    · exact hunder.folder other hother
  · rw [hchanged.kind?]
    split
    · exact Or.inl rfl
    · exact hunder.clear other hother

theorem makeDirectory_of_sight (h : disk.sight path = .ok .folder) :
    disk.makeDirectory path = .error .occupied := by
  obtain ⟨target, htarget, hsight⟩ := Except.bind_ok_iff.1 h
  rw [makeDirectory_eq, htarget]
  cases target with
  | folder place => rfl
  | entry place name =>
    obtain ⟨hshort, hkind⟩ := sightAt_entry_folder_iff.1 hsight
    simp [Except.bind, hshort, hkind]

/-- Where a directory is there on the other disk, it can be made or is there already, once all
around it is there. -/
theorem makeDirectory_reaches {target : Target} (hunder : Under disk made)
    (hmade : made.sight path = .ok .folder) (htarget : disk.target path = .ok target) :
    (∃ next, disk.makeDirectory path = .ok next) ∨ disk.sight path = .ok .folder := by
  rw [sight_of_target (hunder.target_ok htarget)] at hmade
  rw [makeDirectory_eq, sight_of_target htarget, htarget]
  cases target with
  | folder place => exact Or.inr rfl
  | entry place name =>
    obtain ⟨hshort, hkind⟩ := sightAt_entry_folder_iff.1 hmade
    rcases hunder.clear _ hkind with hfolder | hnone
    · exact Or.inr (sightAt_entry_folder_iff.2 ⟨hshort, hfolder⟩)
    · exact Or.inl ⟨disk.update place (·.set name (.folder [])),
        by simp only [Except.bind, hshort, if_false, hnone]⟩

end Disk

namespace OnDisk

open FileOperations

variable {disk made : Disk} {path whole : Path} {outer : Unit → OnDisk (Except FileFault Unit)}

/-- A program that made what it was to make, without more folders than there are on another
disk. -/
structure Reaches (disk made : Disk) (path : Path) (result : Except FileFault Unit × Disk) : Prop where
  ok : result.1 = .ok ()
  grown : Disk.Grown disk result.2
  under : Disk.Under result.2 made
  sight : result.2.sight path = .ok .folder

theorem makeWithin_of_sight (outer : Unit → OnDisk (Except FileFault Unit))
    (hunder : Disk.Under disk made) (h : disk.sight path = .ok .folder) :
    Reaches disk made path (makeWithin path outer disk) := by
  rw [makeWithin_run, Disk.makeDirectory_of_sight h]
  dsimp only
  unfold settled
  rw [if_pos (Disk.isDirectory_iff.2 h)]
  exact ⟨rfl, .refl disk, hunder, h⟩

/-- A directory can be made if those around it can, where they are missing. -/
theorem makeWithin_reaches (outer : Unit → OnDisk (Except FileFault Unit))
    (hunder : Disk.Under disk made) (hmade : made.sight path = .ok .folder)
    (houter : disk.target path = .error .notFound → ∃ further target,
      outer () disk = (.ok (), further) ∧ Disk.Grown disk further ∧ Disk.Under further made ∧
        further.target path = .ok target) :
    Reaches disk made path (makeWithin path outer disk) := by
  obtain ⟨target, htarget, _⟩ := Except.bind_ok_iff.1 hmade
  rcases hunder.target_of htarget with hthere | hmissing
  · rcases Disk.makeDirectory_reaches hunder hmade hthere with ⟨next, hmake⟩ | hsight
    · rw [makeWithin_run, hmake]
      exact ⟨rfl, .of_makeDirectory hmake, Disk.under_of_makeDirectory hunder hmade hmake,
        Disk.sight_of_makeDirectory hmake⟩
    · exact makeWithin_of_sight outer hunder hsight
  · obtain ⟨further, found, hrun, hgrown, hfurther, hthere⟩ := houter hmissing
    have hmake : disk.makeDirectory path = .error .notFound := by
      rw [Disk.makeDirectory_eq, hmissing]
      rfl
    rw [makeWithin_run, hmake]
    dsimp only
    rw [hrun]
    dsimp only
    rcases Disk.makeDirectory_reaches hfurther hmade hthere with ⟨next, hmake⟩ | hsight
    · rw [hmake]
      exact ⟨rfl, hgrown.trans (.of_makeDirectory hmake),
        Disk.under_of_makeDirectory hfurther hmade hmake, Disk.sight_of_makeDirectory hmake⟩
    · rw [Disk.makeDirectory_of_sight hsight]
      dsimp only
      unfold settled
      rw [if_pos (Disk.isDirectory_iff.2 hsight)]
      exact ⟨rfl, hgrown, hfurther, hsight⟩

/-- What is needed to make the directories around a path: the walk to where it starts goes
through, and the system takes the path. -/
structure Reachable (disk : Disk) (whole : Path) : Prop where
  accepted : Disk.accept whole = .ok ()
  start : ∃ place, disk.walk [] (disk.start whole) = .ok place

variable {shorter last : List String}

theorem start_ofParts (disk : Disk) (hbegins : whole.front ++ shorter <+: whole.segments)
    (hempty : Path.ofParts whole.front shorter ≠ .empty) :
    disk.start (.ofParts whole.front shorter) = disk.start whole := by
  unfold Disk.start
  rw [Path.isAbsolute_ofParts hbegins hempty]

/-- The path of a directory around another one leads to a folder just when the walk to its end
goes through. -/
theorem sight_ofParts_iff (haccept : Disk.accept whole = .ok ())
    (hbegins : whole.front ++ shorter <+: whole.segments)
    (hempty : Path.ofParts whole.front shorter ≠ .empty) :
    disk.sight (.ofParts whole.front shorter) = .ok .folder ↔
      ∃ last, disk.walk [] (disk.start whole ++ (whole.front ++ shorter)) = .ok last := by
  have hsegments := Path.segments_ofParts_ne_nil hempty
  have hparts : Disk.accept (.ofParts whole.front shorter) = .ok () :=
    Path.accept_ofParts haccept hbegins hempty
  rw [Disk.sight_folder_iff hsegments, start_ofParts disk hbegins hempty]
  simp only [hparts, true_and, Disk.walk_append_ok_iff (a := disk.start whole), Path.walk_ofParts]

/-- The walk to a front stays where it starts. -/
theorem walk_front (disk : Disk) (whole : Path) (place : List String) :
    disk.walk place (whole.front ++ []) = .ok place := by
  rcases Path.front_cases whole with hfront | hfront | hfront <;> rw [hfront, List.append_nil]
  · rw [Disk.walk_singleton]
    exact Disk.pass_idle (show Path.isIdle "" = true from rfl)
  · rw [Disk.walk_singleton]
    exact Disk.pass_idle (show Path.isIdle "." = true from rfl)
  · rfl

theorem Reaches.walk {result : Except FileFault Unit × Disk}
    (h : Reaches disk made (.ofParts whole.front shorter) result)
    (haccept : Disk.accept whole = .ok ()) (hbegins : whole.front ++ shorter <+: whole.segments)
    (hempty : Path.ofParts whole.front shorter ≠ .empty)
    (hmade : made.walk [] (disk.start whole ++ (whole.front ++ shorter)) = .ok last) :
    result.2.walk [] (disk.start whole ++ (whole.front ++ shorter)) = .ok last := by
  obtain ⟨place, hwalk⟩ := (sight_ofParts_iff haccept hbegins hempty).1 h.sight
  have hstart := h.grown.under.start whole
  rw [hstart] at hwalk
  rw [h.under.walk_ok hwalk] at hmade
  rw [hwalk, hmade]

/-- A directory is looked for at the end of the walk to the one around it. -/
theorem target_ofParts {init : List String} {name : String} (haccept : Disk.accept whole = .ok ())
    (hbegins : whole.front ++ (init ++ [name]) <+: whole.segments) (hname : Path.isIdle name = false)
    (hwalk : disk.walk [] (disk.start whole ++ (whole.front ++ init)) = .ok last) :
    disk.target (.ofParts whole.front (init ++ [name])) = .ok (.ofLast last name) := by
  have hempty := Path.ofParts_ne_empty hname whole.front init
  have hsegments : (Path.ofParts whole.front (init ++ [name])).segments =
      whole.front ++ init ++ [name] := by
    rcases Path.segments_ofParts whole.front (init ++ [name]) with h | ⟨h, _⟩ | ⟨_, _, h⟩
    · rw [h, List.append_assoc]
    · exact absurd h hempty
    · exact absurd h (List.append_ne_nil_of_right_ne_nil init (List.cons_ne_nil name []))
  have hnonempty : name ≠ "" := by
    rintro rfl
    cases hname
  have hlast : (Path.ofParts whole.front (init ++ [name])).segments.reverse.dropWhile (· = "") =
      name :: (whole.front ++ init).reverse := by
    rw [hsegments, List.reverse_append, List.reverse_singleton, List.singleton_append,
      List.dropWhile_cons_of_neg (by simpa using hnonempty)]
  rw [Disk.target_ok_iff, hlast, start_ofParts disk hbegins hempty]
  dsimp only
  rw [List.reverse_reverse]
  exact ⟨Path.accept_ofParts haccept hbegins hempty, last, hwalk, rfl⟩

/-- Directories can be made one inside the other. -/
theorem makeOutward_reaches (reversed : List String) (hwhole : Reachable disk whole)
    (hbegins : whole.front ++ reversed.reverse <+: whole.segments) (hunder : Disk.Under disk made)
    (hmade : made.walk [] (disk.start whole ++ (whole.front ++ reversed.reverse)) = .ok last) :
    ∃ further, (makeOutward whole.front reversed : OnDisk _) disk = (.ok (), further) ∧
      Disk.Grown disk further ∧ Disk.Under further made ∧
      further.walk [] (disk.start whole ++ (whole.front ++ reversed.reverse)) = .ok last := by
  induction reversed generalizing last with
  | nil =>
    obtain ⟨place, hstart⟩ := hwhole.start
    have hwalk : disk.walk [] (disk.start whole ++ (whole.front ++ [])) = .ok place :=
      Disk.walk_append_ok_iff.2 ⟨place, hstart, walk_front disk whole place⟩
    have hplace : place = last := by
      have h := hunder.walk_ok hwalk
      rw [List.reverse_nil, h] at hmade
      cases hmade
      rfl
    subst hplace
    unfold makeOutward
    split
    · exact ⟨disk, rfl, .refl disk, hunder, hwalk⟩
    · rename_i hfront
      have hempty : Path.ofParts whole.front [] ≠ .empty := by
        rcases Path.front_cases whole with h | h | h
        · rw [h]
          decide
        · rw [h]
          decide
        · exact absurd h hfront
      have hsight := (sight_ofParts_iff hwhole.accepted hbegins hempty).2 ⟨_, hwalk⟩
      have h := makeWithin_of_sight (fun _ => pure (.ok ())) hunder hsight
      exact ⟨_, Prod.ext h.ok rfl, h.grown, h.under,
        h.walk hwhole.accepted hbegins hempty hmade⟩
  | cons name rest ih =>
    have hassoc : disk.start whole ++ (whole.front ++ (rest.reverse ++ [name])) =
        disk.start whole ++ (whole.front ++ rest.reverse) ++ [name] := by simp
    rw [List.reverse_cons] at hbegins hmade ⊢
    have hshorter : whole.front ++ rest.reverse <+: whole.segments := by
      rw [← List.append_assoc] at hbegins
      exact (List.prefix_append _ _).trans hbegins
    obtain ⟨middle, hmiddle, hpass⟩ := Disk.walk_append_ok_iff.1 (hassoc ▸ hmade)
    obtain ⟨further, hrun, hgrown, hfurther, hwalk⟩ := ih hshorter hmiddle
    unfold makeOutward
    cases hidle : Path.isIdle name with
    | true =>
      rw [Disk.walk_singleton, Disk.pass_idle hidle] at hpass
      cases hpass
      refine ⟨further, hrun, hgrown, hfurther, ?_⟩
      rw [hassoc]
      refine Disk.walk_append_ok_iff.2 ⟨_, hwalk, ?_⟩
      rw [Disk.walk_singleton, Disk.pass_idle hidle]
    | false =>
      have hempty := Path.ofParts_ne_empty hidle whole.front rest.reverse
      have hsight : made.sight (.ofParts whole.front (rest.reverse ++ [name])) = .ok .folder := by
        rw [sight_ofParts_iff hwhole.accepted hbegins hempty, hunder.start whole]
        exact ⟨last, hmade⟩
      have h := makeWithin_reaches (fun _ => makeOutward whole.front rest) hunder hsight
        fun _ => ⟨further, _, hrun, hgrown, hfurther, target_ofParts hwhole.accepted hbegins hidle
          (by rw [hgrown.under.start whole]; exact hwalk)⟩
      rw [List.reverse_cons]
      exact ⟨_, Prod.ext h.ok rfl, h.grown, h.under, h.walk hwhole.accepted hbegins hempty hmade⟩

/-- The directory around a file can be made. -/
theorem makeDirectories_reaches (hwhole : Reachable disk whole)
    (hbegins : whole.front ++ shorter <+: whole.segments)
    (hempty : Path.ofParts whole.front shorter ≠ .empty)
    (htrimmed : shorter = [] ∨ ∃ name rest, shorter.reverse = name :: rest ∧ Path.isIdle name = false)
    (hunder : Disk.Under disk made)
    (hmade : made.walk [] (disk.start whole ++ (whole.front ++ shorter)) = .ok last) :
    ∃ further, (makeDirectories (.ofParts whole.front shorter) : OnDisk _) disk = (.ok (), further) ∧
      Disk.Grown disk further ∧ Disk.Under further made ∧
      further.walk [] (disk.start whole ++ (whole.front ++ shorter)) = .ok last := by
  unfold makeDirectories
  rw [if_neg hempty]
  rcases htrimmed with rfl | ⟨name, rest, hreversed, hname⟩
  · obtain ⟨place, hstart⟩ := hwhole.start
    have hsight := (sight_ofParts_iff hwhole.accepted hbegins hempty).2
      ⟨place, Disk.walk_append_ok_iff.2 ⟨place, hstart, walk_front disk whole place⟩⟩
    have h := makeWithin_of_sight (fun _ => makeOutward (Path.ofParts whole.front []).front
      ((Path.ofParts whole.front []).body.reverse.dropWhile Path.isIdle).tail) hunder hsight
    exact ⟨_, Prod.ext h.ok rfl, h.grown, h.under, h.walk hwhole.accepted hbegins hempty hmade⟩
  · have hne : shorter ≠ [] := by
      rintro rfl
      cases hreversed
    have hshorter : shorter = (name :: rest).reverse := by rw [← hreversed, List.reverse_reverse]
    obtain ⟨hfront, hbody⟩ := Path.front_ofParts hbegins hne hempty
    have hwithin := makeOutward_reaches (name :: rest) hwhole (hshorter ▸ hbegins) hunder
      (hshorter ▸ hmade)
    unfold makeOutward at hwithin
    rw [hname, ← hshorter] at hwithin
    rw [hfront, hbody, hreversed, List.dropWhile_cons_of_neg (by simp [hname]), List.tail_cons]
    exact hwithin

/-- Making directories that another disk has adds none that it does not have. -/
theorem makeDirectories_under (hunder : Disk.Under disk made)
    (hmade : made.walk [] (made.start path ++ path.segments) = .ok last) :
    Disk.Under ((makeDirectories path : OnDisk _) disk).2 made := by
  refine makeDirectories_preserves (I := fun disk => Disk.Under disk made)
    (fun outer haround disk next hdisk hmake => ?_) hunder
  obtain ⟨place, name, htarget, _, _, _⟩ := Disk.makeDirectory_ok hmake
  obtain ⟨haccept, hlast⟩ := Disk.target_ok_iff.1 htarget
  have hsegments : outer.segments ≠ [] := by
    intro hnil
    simp [hnil] at hlast
  refine Disk.under_of_makeDirectory hdisk ?_ hmake
  rw [Disk.sight_folder_iff hsegments]
  refine ⟨haccept, ?_⟩
  rcases haround with rfl | ⟨shorter, hshorter, rfl⟩
  · exact ⟨last, hmade⟩
  · have hempty : Path.ofParts path.front shorter ≠ .empty := (Path.accept_ok_iff.1 haccept).2.1
    have hbegins : path.front ++ shorter <+: path.segments := by
      rw [Path.segments_eq path, List.prefix_append_right_inj]
      exact hshorter
    obtain ⟨place, hstart, hwalk⟩ := Disk.walk_append_ok_iff.1 hmade
    obtain ⟨rest, hrest⟩ := hbegins
    rw [← hrest] at hwalk
    obtain ⟨middle, hmiddle, _⟩ := Disk.walk_append_ok_iff.1 hwalk
    refine ⟨middle, Disk.walk_append_ok_iff.2 ⟨place, ?_, ?_⟩⟩
    · rw [start_ofParts made ⟨rest, hrest⟩ hempty]
      exact hstart
    · rw [Path.walk_ofParts]
      exact hmiddle

/-! ## What was made is there -/

theorem sight_of_settled {fault : FileFault} (h : settled disk path fault = .ok ()) :
    disk.sight path = .ok .folder := by
  unfold settled at h
  split at h
  · rename_i hdirectory
    exact Disk.isDirectory_iff.1 hdirectory
  · cases h

theorem makeWithin_ok (h : (makeWithin path outer disk).1 = .ok ()) :
    (makeWithin path outer disk).2.sight path = .ok .folder := by
  rw [makeWithin_run] at h ⊢
  split at h
  · rename_i next hmake
    exact Disk.sight_of_makeDirectory hmake
  · split at h
    · cases h
    · split at h
      · rename_i next hmake
        exact Disk.sight_of_makeDirectory hmake
      · exact sight_of_settled h
  · exact sight_of_settled h

/-- A directory whose making goes through is there. -/
theorem makeDirectories_ok (hempty : path ≠ .empty)
    (h : ((makeDirectories path : OnDisk _) disk).1 = .ok ()) :
    ((makeDirectories path : OnDisk _) disk).2.sight path = .ok .folder := by
  unfold makeDirectories at h ⊢
  rw [if_neg hempty] at h ⊢
  exact makeWithin_ok h

theorem start_of_around {around : Path} (disk : Disk) (h : path.Around around) (hempty : around ≠ .empty) :
    disk.start around = disk.start path := by
  rcases h with rfl | ⟨shorter, hshorter, rfl⟩
  · rfl
  · refine start_ofParts disk ?_ hempty
    rw [Path.segments_eq path, List.prefix_append_right_inj]
    exact hshorter

/-- Where the walk to its start is stopped, no directory can be made. -/
theorem start_of_makeDirectories (hsegments : path.segments ≠ []) (hempty : path ≠ .empty)
    (h : ((makeDirectories path : OnDisk _) disk).1 = .ok ()) :
    ∃ place, disk.walk [] (disk.start path) = .ok place := by
  cases hstart : disk.walk [] (disk.start path) with
  | ok place => exact ⟨place, rfl⟩
  | error fault =>
    have hsame : ((makeDirectories path : OnDisk _) disk).2 = disk := by
      refine makeDirectories_preserves (I := fun after => after = disk)
        (fun around haround before next hbefore hmake => ?_) rfl
      subst hbefore
      obtain ⟨place, name, htarget, _, _, _⟩ := Disk.makeDirectory_ok hmake
      obtain ⟨haccept, hlast⟩ := Disk.target_ok_iff.1 htarget
      rw [start_of_around before haround (Path.accept_ok_iff.1 haccept).2.1] at hlast
      split at hlast
      · cases hlast
      · obtain ⟨_, hwalk, _⟩ := hlast
        obtain ⟨_, hwalk, _⟩ := Disk.walk_append_ok_iff.1 hwalk
        rw [hstart] at hwalk
        cases hwalk
    have hsight := makeDirectories_ok hempty h
    rw [hsame, Disk.sight_folder_iff hsegments] at hsight
    obtain ⟨_, _, hwalk⟩ := hsight
    obtain ⟨_, hwalk, _⟩ := Disk.walk_append_ok_iff.1 hwalk
    rw [hstart] at hwalk
    cases hwalk

end OnDisk

end RetryTickets
