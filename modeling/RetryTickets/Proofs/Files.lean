-- What the operations on files see and change, told by what is where. An
-- operation that goes through changes what one place holds, or two of them.
import Mathlib.Data.List.TakeWhile
import RetryTickets.Proofs.Walks

namespace RetryTickets

namespace Disk

variable {disk changed : Disk} {path : Path} {place : List String} {name : String}

/-- What a target leads to. A final slash asks for a folder. -/
def sightAt (disk : Disk) (endsInSlash : Bool) : Target → Except FileFault Kind
  | .folder _ => .ok .folder
  | .entry place name =>
    if nameLimit < name.utf8ByteSize then .error .nameTooLong
    else match disk.kind? (place ++ [name]) with
      | none => .error .notFound
      | some (.file content) => if endsInSlash then .error .notDirectory else .ok (.file content)
      | some .folder => .ok .folder

/-- What a path leads to. -/
def sight (disk : Disk) (path : Path) : Except FileFault Kind :=
  (disk.target path).bind (disk.sightAt path.endsInSlash)

/-! ## Looking -/

/-- A name in a folder at a place. -/
theorem look_entry (h : disk.kind? place = some .folder) (name : String) :
    (nameLimit < name.utf8ByteSize ∧ disk.look place name = .error .nameTooLong) ∨
      (¬ nameLimit < name.utf8ByteSize ∧ ∃ node?, disk.look place name = .ok node? ∧
        disk.kind? (place ++ [name]) = node?.map Node.kind) := by
  obtain ⟨inner, hat⟩ := Folder.at?_of_kind? h
  unfold look Folder.look
  rw [hat]
  by_cases hlong : nameLimit < name.utf8ByteSize
  · exact Or.inl ⟨hlong, by simp [hlong]⟩
  · exact Or.inr ⟨hlong, inner.get? name, by simp [hlong], kind?_entry hat name⟩

theorem look_ok {node? : Option Node} (hplace : disk.kind? place = some .folder)
    (h : disk.look place name = .ok node?) :
    ¬ nameLimit < name.utf8ByteSize ∧ disk.kind? (place ++ [name]) = node?.map Node.kind := by
  rcases look_entry hplace name with ⟨_, hlook⟩ | ⟨hshort, found?, hlook, hkind⟩
  · rw [hlook] at h
    cases h
  · rw [hlook] at h
    cases h
    exact ⟨hshort, hkind⟩

theorem find_kind (disk : Disk) (path : Path) :
    (disk.find path).map Node.kind = disk.sight path := by
  unfold find sight
  simp only [bind, Except.bind]
  cases htarget : disk.target path with
  | error fault => rfl
  | ok target =>
    cases target with
    | folder place =>
      obtain ⟨inner, hat⟩ := Folder.at?_of_kind? (target_folder htarget)
      simp only [hat]
      rfl
    | entry place name =>
      rcases look_entry (target_entry htarget) name with ⟨hlong, hlook⟩ | ⟨hlong, node?, hlook, hkind⟩
      · simp only [hlook, sightAt, hlong, if_true]
        rfl
      · simp only [hlook, sightAt, hlong, if_false, hkind]
        cases node? with
        | none => rfl
        | some node =>
          cases node with
          | file content => cases path.endsInSlash <;> rfl
          | folder entries => rfl

theorem sightAt_entry_ok_iff {endsInSlash : Bool} {kind : Kind} :
    disk.sightAt endsInSlash (.entry place name) = .ok kind ↔
      ¬ nameLimit < name.utf8ByteSize ∧ disk.kind? (place ++ [name]) = some kind ∧
        (endsInSlash = true → kind = .folder) := by
  unfold sightAt
  by_cases hlong : nameLimit < name.utf8ByteSize
  · simp [hlong]
  · cases hkind : disk.kind? (place ++ [name]) with
    | none => simp [hlong, hkind]
    | some found =>
      cases found with
      | file content =>
        cases endsInSlash with
        | true => cases kind <;> simp [hlong, hkind]
        | false => simp [hlong, hkind]
      | folder =>
        simp only [hlong, hkind, if_false, Except.ok.injEq, Option.some.injEq, not_false_eq_true,
          true_and]
        exact ⟨fun h => ⟨h, fun _ => h.symm⟩, fun h => h.1⟩

theorem sightAt_entry_folder_iff {endsInSlash : Bool} :
    disk.sightAt endsInSlash (.entry place name) = .ok .folder ↔
      ¬ nameLimit < name.utf8ByteSize ∧ disk.kind? (place ++ [name]) = some .folder := by
  rw [sightAt_entry_ok_iff]
  simp

theorem sight_of_target {target : Target} (h : disk.target path = .ok target) :
    disk.sight path = disk.sightAt path.endsInSlash target := by
  unfold sight
  rw [h]
  rfl

theorem isThere_iff : disk.isThere path = true ↔ ∃ kind, disk.sight path = .ok kind := by
  rw [← find_kind]
  unfold isThere
  cases disk.find path <;> simp [Except.map]

theorem isDirectory_iff : disk.isDirectory path = true ↔ disk.sight path = .ok .folder := by
  rw [← find_kind]
  unfold isDirectory
  cases disk.find path with
  | error fault => simp [Except.map]
  | ok node => cases node <;> simp [Except.map, Node.kind]

/-- Only files are read. -/
theorem read_eq (disk : Disk) (path : Path) :
    disk.read path = (disk.sight path).bind fun
      | .file content => .ok content
      | .folder => .error .isDirectory := by
  rw [← find_kind]
  unfold read
  cases disk.find path with
  | error fault => rfl
  | ok node => cases node <;> rfl

theorem read_ok_iff {content : Bytes} :
    disk.read path = .ok content ↔ disk.sight path = .ok (.file content) := by
  rw [read_eq, Except.bind_ok_iff]
  constructor
  · rintro ⟨kind, hsight, hkind⟩
    cases kind with
    | file found =>
      cases hkind
      exact hsight
    | folder => cases hkind
  · intro hsight
    exact ⟨_, hsight, rfl⟩

/-- A folder cannot be read. -/
theorem read_of_folder (h : disk.sight path = .ok .folder) : disk.read path = .error .isDirectory := by
  rw [read_eq, h]
  rfl

theorem sight_ofLast_folder_iff {last : String} (hname : last ≠ "") {endsInSlash : Bool} :
    disk.sightAt endsInSlash (.ofLast place last) = .ok .folder ↔
      ∃ next, disk.pass place last = .ok next := by
  have hidle : Path.isIdle last = true ↔ last = "." := by simp [Path.isIdle, hname]
  unfold Target.ofLast
  by_cases hdot : last = "."
  · rw [if_pos hdot]
    exact iff_of_true rfl ⟨place, pass_idle (hidle.2 hdot)⟩
  · by_cases hout : last = ".."
    · rw [if_neg hdot, if_pos hout]
      exact iff_of_true rfl ⟨_, pass_ok_iff.2 (Or.inr (Or.inl ⟨hout, rfl⟩))⟩
    · have hplain : Path.isIdle last = false := Bool.eq_false_iff.2 (mt hidle.1 hdot)
      rw [if_neg hdot, if_neg hout, sightAt_entry_folder_iff]
      constructor
      · rintro ⟨hshort, hkind⟩
        exact ⟨_, pass_ok_iff.2 (Or.inr (Or.inr ⟨hplain, hout, hshort, hkind, rfl⟩))⟩
      · rintro ⟨next, hpass⟩
        rcases pass_ok_iff.1 hpass with ⟨h, _⟩ | ⟨h, _⟩ | ⟨_, _, hshort, hkind, _⟩
        · exact absurd (hidle.1 h) hdot
        · exact absurd h hout
        · exact ⟨hshort, hkind⟩

theorem walk_segments (disk : Disk) (path : Path) :
    disk.walk [] (disk.start path ++ path.segments) =
      disk.walk [] (disk.start path ++ (path.segments.reverse.dropWhile (· = "")).reverse) := by
  have hidle : ∀ name : String, decide (name = "") = true → Path.isIdle name = true := by
    intro name hname
    simp [Path.isIdle, of_decide_eq_true hname]
  rw [walk_append, walk_append]
  congr 1
  funext front
  rw [walk_reverse_dropWhile hidle, List.reverse_reverse]

/-- Only the root has a path with nothing but slashes. -/
theorem isAbsolute_of_slashes (haccept : accept path = .ok ()) (hsegments : path.segments ≠ [])
    (h : path.segments.reverse.dropWhile (· = "") = []) : path.isAbsolute = true := by
  obtain ⟨first, rest, hpath⟩ := List.exists_cons_of_ne_nil hsegments
  have hfirst : first = "" := by
    have hall := List.dropWhile_eq_nil_iff.1 h first (by simp [hpath])
    exact of_decide_eq_true hall
  have hne : path.segments ≠ [""] := by
    intro hone
    have hempty : path = .empty := by
      cases path
      exact congrArg Path.mk hone
    rw [hempty] at haccept
    cases haccept
  simp [Path.isAbsolute, hpath, hfirst] at hne ⊢
  exact hne

/-- A path leads to a folder just when a walk goes through to its end. -/
theorem sight_folder_iff (hsegments : path.segments ≠ []) :
    disk.sight path = .ok .folder ↔ accept path = .ok () ∧
      ∃ place, disk.walk [] (disk.start path ++ path.segments) = .ok place := by
  rw [walk_segments]
  unfold sight
  simp only [Except.bind_ok_iff, target_ok_iff]
  cases hlast : path.segments.reverse.dropWhile (· = "") with
  | nil =>
    constructor
    · rintro ⟨_, ⟨haccept, rfl⟩, _⟩
      refine ⟨haccept, [], ?_⟩
      simp [start, isAbsolute_of_slashes haccept hsegments hlast]
    · rintro ⟨haccept, _⟩
      exact ⟨_, ⟨haccept, rfl⟩, rfl⟩
  | cons last before =>
    have hname : last ≠ "" := by
      have hdrop : path.segments.reverse.dropWhile (fun name : String => decide (name = "")) ≠ [] := by
        rw [hlast]
        exact List.cons_ne_nil last before
      have hhead := List.head_dropWhile_not (fun name : String => decide (name = "")) hdrop
      simp only [hlast, List.head_cons] at hhead
      exact of_decide_eq_false hhead
    rw [List.reverse_cons, ← List.append_assoc]
    simp only [walk_append_ok_iff (a := disk.start path ++ before.reverse), walk_singleton]
    constructor
    · rintro ⟨_, ⟨haccept, place, hwalk, rfl⟩, hsight⟩
      obtain ⟨next, hpass⟩ := (sight_ofLast_folder_iff hname).1 hsight
      exact ⟨haccept, next, place, hwalk, hpass⟩
    · rintro ⟨haccept, next, place, hwalk, hpass⟩
      exact ⟨_, ⟨haccept, place, hwalk, rfl⟩, (sight_ofLast_folder_iff hname).2 ⟨next, hpass⟩⟩

/-- What a path names for writing, told by places. -/
theorem writable_eq (disk : Disk) (path : Path) :
    disk.writable path = (disk.target path).bind fun
      | .folder _ => .error .isDirectory
      | .entry place name =>
        if path.endsInSlash then .error .isDirectory
        else if nameLimit < name.utf8ByteSize then .error .nameTooLong
        else match disk.kind? (place ++ [name]) with
          | none => .ok (place, name, [])
          | some (.file content) => .ok (place, name, content)
          | some .folder => .error .isDirectory := by
  unfold writable
  simp only [bind, Except.bind]
  cases htarget : disk.target path with
  | error fault => rfl
  | ok target =>
    cases target with
    | folder place => rfl
    | entry place name =>
      cases path.endsInSlash with
      | true => rfl
      | false =>
        rcases look_entry (target_entry htarget) name with
          ⟨hlong, hlook⟩ | ⟨hlong, node?, hlook, hkind⟩
        · simp only [hlook, hlong, if_true]
          rfl
        · simp only [hlook, hlong, if_false, hkind]
          cases node? with
          | none => rfl
          | some node => cases node <;> rfl

/-- The file that a path names for writing is there already, or there is nothing yet. -/
theorem writable_ok_iff {content : Bytes} :
    disk.writable path = .ok (place, name, content) ↔
      disk.target path = .ok (.entry place name) ∧ path.endsInSlash = false ∧
        ¬ nameLimit < name.utf8ByteSize ∧
        (disk.kind? (place ++ [name]) = none ∧ content = [] ∨
          disk.kind? (place ++ [name]) = some (.file content)) := by
  rw [writable_eq, Except.bind_ok_iff]
  constructor
  · rintro ⟨_ | ⟨front, last⟩, htarget, h⟩
    · cases h
    · dsimp only at h
      split at h
      · cases h
      · rename_i hslash
        split at h
        · cases h
        · rename_i hshort
          have hplain : path.endsInSlash = false := Bool.eq_false_iff.2 hslash
          split at h
          · rename_i hkind
            cases h
            exact ⟨htarget, hplain, hshort, Or.inl ⟨hkind, rfl⟩⟩
          · rename_i hkind
            cases h
            exact ⟨htarget, hplain, hshort, Or.inr hkind⟩
          · cases h
  · rintro ⟨htarget, hslash, hshort, hkind⟩
    refine ⟨_, htarget, ?_⟩
    rcases hkind with ⟨hnone, rfl⟩ | hfile
    · simp [hslash, hshort, hnone]
    · simp [hslash, hshort, hfile]

/-! ## Changing -/

/-- A disk that was changed at one place, where there is this now. -/
structure ChangedAt (disk changed : Disk) (spot : List String) (kind? : Option Kind) : Prop where
  working : changed.working = disk.working
  kind? : ∀ other, changed.kind? other = if other = spot then kind? else disk.kind? other

theorem changedAt_set (hplace : disk.kind? place = some .folder)
    (hname : disk.kind? (place ++ [name]) ≠ some .folder) {node : Node} (hnode : node.Bare) :
    ChangedAt disk (disk.update place (·.set name node)) (place ++ [name]) (some node.kind) := by
  obtain ⟨inner, hat⟩ := Folder.at?_of_kind? hplace
  refine ⟨rfl, fun other => ?_⟩
  refine kind?_update (some node) hat (fun k => Folder.get?_set inner name k node) ?_ ?_ other
  · intro old hold
    rw [kind?_entry hat, hold] at hname
    cases old with
    | file content => trivial
    | folder entries => exact absurd rfl hname
  · intro new hnew
    cases hnew
    exact hnode

theorem changedAt_remove (hplace : disk.kind? place = some .folder)
    (hname : disk.kind? (place ++ [name]) ≠ some .folder) :
    ChangedAt disk (disk.update place (·.remove name)) (place ++ [name]) none := by
  obtain ⟨inner, hat⟩ := Folder.at?_of_kind? hplace
  refine ⟨rfl, fun other => ?_⟩
  refine kind?_update none hat (fun k => Folder.get?_remove inner name k) ?_ ?_ other
  · intro old hold
    rw [kind?_entry hat, hold] at hname
    cases old with
    | file content => trivial
    | folder entries => exact absurd rfl hname
  · intro new hnew
    cases hnew

theorem not_folder_of_writable {content : Bytes} (h : disk.writable path = .ok (place, name, content)) :
    disk.kind? (place ++ [name]) ≠ some .folder := by
  obtain ⟨_, _, _, hkind⟩ := writable_ok_iff.1 h
  rcases hkind with ⟨hnone, _⟩ | hfile
  · simp [hnone]
  · simp [hfile]

theorem writable_changedAt {before : Bytes} (h : disk.writable path = .ok (place, name, before))
    (content : Bytes) :
    ChangedAt disk (disk.update place (·.set name (.file content))) (place ++ [name])
      (some (.file content)) := by
  obtain ⟨htarget, _⟩ := writable_ok_iff.1 h
  exact changedAt_set (target_entry htarget) (not_folder_of_writable h) trivial

/-- A file is given new bytes, which may depend on those it had. -/
theorem give_ok_iff (new : Bytes → Bytes) :
    ((disk.writable path).map fun (place, name, before) =>
        disk.update place (·.set name (.file (new before)))) = .ok changed ↔
      ∃ place name before, disk.writable path = .ok (place, name, before) ∧
        changed = disk.update place (·.set name (.file (new before))) := by
  rw [Except.map_ok_iff]
  constructor
  · rintro ⟨⟨place, name, before⟩, hwritable, rfl⟩
    exact ⟨place, name, before, hwritable, rfl⟩
  · rintro ⟨place, name, before, hwritable, rfl⟩
    exact ⟨_, hwritable, rfl⟩

theorem append_ok_iff {content : Bytes} :
    disk.append path content = .ok changed ↔ ∃ place name before,
      disk.writable path = .ok (place, name, before) ∧
        changed = disk.update place (·.set name (.file (before ++ content))) := by
  rw [← give_ok_iff (· ++ content)]
  unfold append
  cases disk.writable path <;> rfl

theorem write_ok_iff {content : Bytes} :
    disk.write path content = .ok changed ↔ ∃ place name before,
      disk.writable path = .ok (place, name, before) ∧
        changed = disk.update place (·.set name (.file content)) := by
  rw [← give_ok_iff fun _ => content]
  unfold write
  cases disk.writable path <;> rfl

/-- A file takes the place of another one, or of nothing, and is gone from its own. -/
theorem rename_of_file {source destination : Path} {newPlace : List String} {newName : String}
    {content : Bytes} (hsource : disk.target source = .ok (.entry place name))
    (hdestination : disk.target destination = .ok (.entry newPlace newName))
    (hslash : source.endsInSlash = false) (hnewSlash : destination.endsInSlash = false)
    (hshort : ¬ nameLimit < name.utf8ByteSize) (hnewShort : ¬ nameLimit < newName.utf8ByteSize)
    (hfile : disk.kind? (place ++ [name]) = some (.file content))
    (hfree : disk.kind? (newPlace ++ [newName]) ≠ some .folder)
    (hother : newPlace ++ [newName] ≠ place ++ [name]) :
    ∃ between changed, disk.rename source destination = .ok changed ∧
      ChangedAt disk between (place ++ [name]) none ∧
      ChangedAt between changed (newPlace ++ [newName]) (some (.file content)) := by
  have hplace := target_entry hsource
  have hnewPlace := target_entry hdestination
  refine ⟨disk.update place (·.remove name),
    (disk.update place (·.remove name)).update newPlace (·.set newName (.file content)), ?_, ?_, ?_⟩
  · have haccept := (target_ok_iff.1 hsource).1
    have hnewAccept := (target_ok_iff.1 hdestination).1
    rcases look_entry hplace name with ⟨hlong, _⟩ | ⟨_, node?, hlook, hkind⟩
    · exact absurd hlong hshort
    rcases look_entry hnewPlace newName with ⟨hlong, _⟩ | ⟨_, newNode?, hnewLook, hnewKind⟩
    · exact absurd hlong hnewShort
    rw [hfile] at hkind
    obtain ⟨node, rfl, hnode⟩ := Option.map_eq_some_iff.1 hkind.symm
    cases node with
    | folder entries => cases hnode
    | file found =>
      cases hnode
      simp only [rename, haccept, hnewAccept, hsource, hdestination, bind, Except.bind, hlook,
        hnewLook, hslash, hnewSlash, Bool.or_self, Bool.false_eq_true, if_false]
      rcases newNode? with _ | newFile | newEntries
      · rfl
      · rfl
      · exact absurd hnewKind hfree
  · exact changedAt_remove hplace (by simp [hfile])
  · have hspot : disk.kind? (place ++ [name]) ≠ some .folder := by simp [hfile]
    have hbetween := changedAt_remove hplace hspot
    have hbare : (Node.file content).Bare := trivial
    refine changedAt_set ?_ ?_ hbare
    · rw [hbetween.kind?, if_neg, hnewPlace]
      rintro rfl
      rw [hfile] at hnewPlace
      cases hnewPlace
    · rw [hbetween.kind?, if_neg hother]
      exact hfree

/-- A directory is made where there is nothing. -/
theorem makeDirectory_eq (disk : Disk) (path : Path) :
    disk.makeDirectory path = (disk.target path).bind fun
      | .folder _ => .error .occupied
      | .entry place name =>
        if nameLimit < name.utf8ByteSize then .error .nameTooLong
        else match disk.kind? (place ++ [name]) with
          | none => .ok (disk.update place (·.set name (.folder [])))
          | some _ => .error .occupied := by
  unfold makeDirectory
  simp only [bind, Except.bind]
  cases htarget : disk.target path with
  | error fault => rfl
  | ok target =>
    cases target with
    | folder place => rfl
    | entry place name =>
      rcases look_entry (target_entry htarget) name with ⟨hlong, hlook⟩ | ⟨hlong, node?, hlook, hkind⟩
      · simp only [hlook, hlong, if_true]
      · simp only [hlook, hlong, if_false, hkind]
        cases node? <;> rfl

theorem makeDirectory_ok (h : disk.makeDirectory path = .ok changed) :
    ∃ place name, disk.target path = .ok (.entry place name) ∧
      ¬ nameLimit < name.utf8ByteSize ∧ disk.kind? (place ++ [name]) = none ∧
      ChangedAt disk changed (place ++ [name]) (some .folder) := by
  rw [makeDirectory_eq, Except.bind_ok_iff] at h
  obtain ⟨_ | ⟨place, name⟩, htarget, h⟩ := h
  · cases h
  · dsimp only at h
    split at h
    · cases h
    · rename_i hshort
      split at h
      · rename_i hkind
        cases h
        have hname : disk.kind? (place ++ [name]) ≠ some .folder := by simp [hkind]
        exact ⟨place, name, htarget, hshort, hkind, changedAt_set (target_entry htarget) hname rfl⟩
      · cases h

end Disk

end RetryTickets
