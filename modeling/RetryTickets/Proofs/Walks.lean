-- Where paths lead, told from what is where. A walk goes from place to place,
-- and it is stopped only by what a place on its way holds.
import RetryTickets.Proofs.Trees

namespace RetryTickets

theorem Except.bind_ok_iff {ε α β : Type} {x : Except ε α} {f : α → Except ε β} {b : β} :
    x.bind f = .ok b ↔ ∃ a, x = .ok a ∧ f a = .ok b := by
  cases x <;> simp [Except.bind]

theorem Except.do_ok_iff {ε α β : Type} {x : Except ε α} {f : α → Except ε β} {b : β} :
    (x >>= f) = .ok b ↔ ∃ a, x = .ok a ∧ f a = .ok b :=
  Except.bind_ok_iff

theorem Except.map_ok_iff {ε α β : Type} {x : Except ε α} {f : α → β} {b : β} :
    x.map f = .ok b ↔ ∃ a, x = .ok a ∧ f a = b := by
  cases x <;> simp [Except.map]

namespace Stand

/-- The stands that walks from the root of a tree can reach. -/
inductive On (root : Folder) : Stand → Prop
  | start : On root ⟨root, []⟩
  | inner {stand : Stand} {name : String} {next : Folder} (outer : On root stand)
      (leads : stand.folder.get? name = some (.folder next)) :
      On root ⟨next, (name, stand.folder) :: stand.trail⟩

theorem place_inner (stand : Stand) (name : String) (next : Folder) :
    place ⟨next, (name, stand.folder) :: stand.trail⟩ = stand.place ++ [name] := by
  simp [place]

theorem On.at? {root : Folder} {stand : Stand} (h : On root stand) :
    root.at? stand.place = some stand.folder := by
  induction h with
  | start => rfl
  | inner outer leads ih => rw [place_inner, Folder.at?_append_singleton ih, leads]

theorem On.out {root : Folder} {stand : Stand} (h : On root stand) :
    On root stand.out ∧ stand.out.place = stand.place.dropLast := by
  cases h with
  | start => exact ⟨.start, rfl⟩
  | inner outer leads => exact ⟨outer, by rw [place_inner, List.dropLast_concat]; rfl⟩

end Stand

/-- Where a last name leads from a place. -/
def Target.ofLast (place : List String) (last : String) : Target :=
  if last = "." then .folder place
  else if last = ".." then .folder place.dropLast
  else .entry place last

namespace Disk

/-- On from a place through one name. -/
def pass (disk : Disk) (place : List String) (name : String) : Except FileFault (List String) :=
  if Path.isIdle name then .ok place
  else if name = ".." then .ok place.dropLast
  else if nameLimit < name.utf8ByteSize then .error .nameTooLong
  else match disk.kind? (place ++ [name]) with
    | some .folder => .ok (place ++ [name])
    | some (.file _) => .error .notDirectory
    | none => .error .notFound

/-- On from a place through some names. -/
def walk (disk : Disk) (place names : List String) : Except FileFault (List String) :=
  names.foldlM disk.pass place

/-- Where walks along a path start. -/
def start (disk : Disk) (path : Path) : List String :=
  if path.isAbsolute then [] else disk.working

variable {disk : Disk} {place : List String} {name : String}

/-! ## Walks -/

@[simp] theorem walk_nil (disk : Disk) (place : List String) : disk.walk place [] = .ok place := rfl

theorem walk_append (disk : Disk) (place a b : List String) :
    disk.walk place (a ++ b) = (disk.walk place a).bind fun next => disk.walk next b := by
  unfold walk
  rw [List.foldlM_append]
  rfl

@[simp] theorem walk_singleton (disk : Disk) (place : List String) (name : String) :
    disk.walk place [name] = disk.pass place name := by
  show (disk.pass place name).bind Except.ok = _
  cases disk.pass place name <;> rfl

theorem walk_cons (disk : Disk) (place : List String) (name : String) (names : List String) :
    disk.walk place (name :: names) = (disk.pass place name).bind fun next => disk.walk next names :=
  rfl

theorem walk_cons_ok_iff {names last : List String} :
    disk.walk place (name :: names) = .ok last ↔
      ∃ next, disk.pass place name = .ok next ∧ disk.walk next names = .ok last := by
  rw [walk_cons, Except.bind_ok_iff]

theorem walk_append_ok_iff {a b last : List String} :
    disk.walk place (a ++ b) = .ok last ↔
      ∃ next, disk.walk place a = .ok next ∧ disk.walk next b = .ok last := by
  rw [walk_append, Except.bind_ok_iff]

/-- Names in a folder lead on to folders only. -/
theorem pass_ok_iff {next : List String} :
    disk.pass place name = .ok next ↔
      (Path.isIdle name = true ∧ next = place) ∨ (name = ".." ∧ next = place.dropLast) ∨
        (Path.isIdle name = false ∧ name ≠ ".." ∧ ¬ nameLimit < name.utf8ByteSize ∧
          disk.kind? (place ++ [name]) = some .folder ∧ next = place ++ [name]) := by
  unfold pass
  cases hidle : Path.isIdle name with
  | true =>
    have hname : name ≠ ".." := by
      rintro rfl
      exact absurd hidle (by decide)
    simp [hname, eq_comm]
  | false =>
    by_cases hout : name = ".."
    · simp [hout, eq_comm]
    · by_cases hlong : nameLimit < name.utf8ByteSize
      · simp [hout, hlong]
      · cases hkind : disk.kind? (place ++ [name]) with
        | none => simp [hout, hlong]
        | some kind => cases kind <;> simp [hout, hlong, eq_comm]

/-- A name that stands for nothing stops a walk. -/
theorem pass_of_none (hidle : Path.isIdle name = false) (hout : name ≠ "..")
    (hshort : ¬ nameLimit < name.utf8ByteSize) (hkind : disk.kind? (place ++ [name]) = none) :
    disk.pass place name = .error .notFound := by
  simp [pass, hidle, hout, hshort, hkind]

theorem pass_idle (h : Path.isIdle name = true) : disk.pass place name = .ok place := by
  simp [pass, h]

/-- Idle names at the end of a walk lead nowhere. -/
theorem walk_reverse_dropWhile {idle : String → Bool} (hidle : ∀ name, idle name → Path.isIdle name)
    (reversed : List String) :
    disk.walk place (reversed.dropWhile idle).reverse = disk.walk place reversed.reverse := by
  induction reversed with
  | nil => rfl
  | cons name rest ih =>
    by_cases h : idle name = true
    · rw [List.dropWhile_cons_of_pos h, ih, List.reverse_cons, walk_append]
      simp only [walk_singleton, pass_idle (hidle name h)]
      cases disk.walk place rest.reverse <;> rfl
    · rw [List.dropWhile_cons_of_neg h]

theorem dropLast_folder (h : disk.kind? place = some .folder) :
    disk.kind? place.dropLast = some .folder := by
  rcases List.eq_nil_or_concat place with rfl | ⟨front, last, rfl⟩
  · exact h
  · rw [List.concat_eq_append] at h ⊢
    rw [List.dropLast_concat]
    exact kind?_around h (List.cons_ne_nil last [])

theorem pass_folder {next : List String} (h : disk.kind? place = some .folder)
    (hpass : disk.pass place name = .ok next) : disk.kind? next = some .folder := by
  rcases pass_ok_iff.1 hpass with ⟨_, rfl⟩ | ⟨_, rfl⟩ | ⟨_, _, _, hkind, rfl⟩
  · exact h
  · exact dropLast_folder h
  · exact hkind

theorem walk_folder {names last : List String} (h : disk.kind? place = some .folder)
    (hwalk : disk.walk place names = .ok last) : disk.kind? last = some .folder := by
  induction names generalizing place with
  | nil =>
    cases hwalk
    exact h
  | cons name names ih =>
    obtain ⟨next, hpass, hwalk⟩ := walk_cons_ok_iff.1 hwalk
    exact ih (pass_folder h hpass) hwalk

@[simp] theorem kind?_root (disk : Disk) : disk.kind? [] = some .folder := rfl

/-! ## Walks told by stands -/

/-- A stand goes on through a name just as its place does. -/
theorem step_eq_pass {stand : Stand} (h : Stand.On disk.root stand) (name : String) :
    (∃ next, stand.step name = .ok next ∧ Stand.On disk.root next ∧
        disk.pass stand.place name = .ok next.place) ∨
      ∃ fault, stand.step name = .error fault ∧ disk.pass stand.place name = .error fault := by
  unfold Stand.step pass
  by_cases hidle : Path.isIdle name = true
  · simp only [hidle, if_true]
    exact Or.inl ⟨stand, rfl, h, rfl⟩
  rw [if_neg hidle, if_neg hidle]
  by_cases hout : name = ".."
  · simp only [hout, if_true]
    exact Or.inl ⟨stand.out, rfl, h.out.1, by rw [h.out.2]⟩
  by_cases hlong : nameLimit < name.utf8ByteSize
  · simp only [hout, hlong, Folder.look, if_true, if_false]
    exact Or.inr ⟨_, rfl, rfl⟩
  have hkind := kind?_entry h.at? name
  cases hget : stand.folder.get? name with
  | none =>
    rw [hget] at hkind
    simp only [hout, hlong, Folder.look, hget, hkind, if_false]
    exact Or.inr ⟨_, rfl, rfl⟩
  | some node =>
    rw [hget] at hkind
    cases node with
    | file content =>
      simp only [hout, hlong, Folder.look, hget, hkind, if_false]
      exact Or.inr ⟨_, rfl, rfl⟩
    | folder inner =>
      simp only [hout, hlong, Folder.look, hget, hkind, if_false]
      refine Or.inl ⟨_, rfl, h.inner hget, ?_⟩
      rw [Stand.place_inner]
      rfl

theorem foldlM_step_eq_walk {stand : Stand} (h : Stand.On disk.root stand) (names : List String) :
    (∃ last, names.foldlM Stand.step stand = .ok last ∧ Stand.On disk.root last ∧
        disk.walk stand.place names = .ok last.place) ∨
      ∃ fault, names.foldlM Stand.step stand = .error fault ∧
        disk.walk stand.place names = .error fault := by
  induction names generalizing stand with
  | nil => exact Or.inl ⟨stand, rfl, h, rfl⟩
  | cons name names ih =>
    have hfold : (name :: names).foldlM Stand.step stand =
        (stand.step name).bind fun next => names.foldlM Stand.step next := rfl
    rcases step_eq_pass h name with ⟨next, hstep, hnext, hpass⟩ | ⟨fault, hstep, hpass⟩
    · rw [walk_cons, hfold, hstep, hpass]
      exact ih hnext
    · rw [walk_cons, hfold, hstep, hpass]
      exact Or.inr ⟨fault, rfl, rfl⟩

/-- Where a path leads, told by places. -/
theorem target_eq (disk : Disk) (path : Path) :
    disk.target path = (accept path).bind fun _ =>
      match path.segments.reverse.dropWhile (· = "") with
      | [] => .ok (.folder [])
      | last :: before =>
        (disk.walk [] (disk.start path ++ before.reverse)).map fun place => .ofLast place last := by
  unfold target
  cases accept path with
  | error fault => rfl
  | ok u =>
    simp only [bind, Except.bind, pure, Except.pure]
    cases path.segments.reverse.dropWhile (· = "") with
    | nil => rfl
    | cons last before =>
      dsimp only
      have hplace : Stand.place ⟨disk.root, []⟩ = [] := rfl
      have hboth := foldlM_step_eq_walk (Stand.On.start : Stand.On disk.root _)
        (disk.start path ++ before.reverse)
      rw [hplace] at hboth
      unfold start at hboth ⊢
      rcases hboth with ⟨stand, hfold, hon, hwalk⟩ | ⟨fault, hfold, hwalk⟩
      · rw [hfold, hwalk]
        simp only [Except.map, Target.ofLast, ← hon.out.2]
        split
        · rfl
        · split <;> rfl
      · rw [hfold, hwalk]
        rfl

/-- A path leads on from the place before its last name. -/
theorem target_ok_iff {path : Path} {target : Target} :
    disk.target path = .ok target ↔ accept path = .ok () ∧
      match path.segments.reverse.dropWhile (· = "") with
      | [] => target = .folder []
      | last :: before =>
        ∃ place, disk.walk [] (disk.start path ++ before.reverse) = .ok place ∧
          target = .ofLast place last := by
  have hgo : (∃ u, accept path = .ok u) ↔ accept path = .ok () := ⟨fun ⟨(), h⟩ => h, fun h => ⟨(), h⟩⟩
  rw [target_eq, Except.bind_ok_iff, exists_and_right, hgo]
  cases path.segments.reverse.dropWhile (· = "") with
  | nil => simp only [Except.ok.injEq, @eq_comm _ target]
  | cons last before => simp only [Except.map_ok_iff, @eq_comm _ target]

theorem target_folder {path : Path} (h : disk.target path = .ok (.folder place)) :
    disk.kind? place = some .folder := by
  obtain ⟨_, h⟩ := target_ok_iff.1 h
  split at h
  · cases h
    rfl
  · rename_i last before _
    obtain ⟨front, hwalk, h⟩ := h
    have hfront := walk_folder (kind?_root disk) hwalk
    unfold Target.ofLast at h
    split at h
    · cases h
      exact hfront
    · split at h
      · cases h
        exact dropLast_folder hfront
      · cases h

theorem target_entry {path : Path} (h : disk.target path = .ok (.entry place name)) :
    disk.kind? place = some .folder := by
  obtain ⟨_, h⟩ := target_ok_iff.1 h
  split at h
  · cases h
  · rename_i last before _
    obtain ⟨front, hwalk, h⟩ := h
    unfold Target.ofLast at h
    split at h
    · cases h
    · split at h
      · cases h
      · cases h
        exact walk_folder (kind?_root disk) hwalk

end Disk

end RetryTickets
