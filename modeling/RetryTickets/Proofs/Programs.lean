-- Programs of storage on a disk in memory, step by step: what each step
-- answers, and the disk that it leaves.
import RetryTickets.Proofs.Directories
import RetryTickets.Storage

namespace RetryTickets

/-- What a program answers on a disk, and the disk it leaves. -/
def Disk.run {α : Type} (disk : Disk) (program : ExceptT Error OnDisk α) : Except Error α × Disk :=
  program.run disk

namespace Disk

variable {α β : Type} {disk after : Disk} {path : Path}

/-! ## Steps in a row -/

theorem run_bind (x : ExceptT Error OnDisk α) (f : α → ExceptT Error OnDisk β) :
    disk.run (x >>= f) =
      match disk.run x with
      | (.ok a, next) => next.run (f a)
      | (.error error, next) => (.error error, next) := by
  show (ExceptT.bindCont f (x.run disk).1 : OnDisk _) (x.run disk).2 = _
  unfold run
  rcases x.run disk with ⟨error | a, next⟩
  · rfl
  · rfl

theorem run_bind_of_ok {x : ExceptT Error OnDisk α} {f : α → ExceptT Error OnDisk β} {a : α}
    (h : disk.run x = (.ok a, after)) : disk.run (x >>= f) = after.run (f a) := by
  rw [run_bind, h]

theorem run_bind_ok_iff {x : ExceptT Error OnDisk α} {f : α → ExceptT Error OnDisk β} {b : β} :
    disk.run (x >>= f) = (.ok b, after) ↔
      ∃ a next, disk.run x = (.ok a, next) ∧ next.run (f a) = (.ok b, after) := by
  rw [run_bind]
  rcases disk.run x with ⟨error | a, next⟩
  · simp
  · constructor
    · intro h
      exact ⟨a, next, rfl, h⟩
    · rintro ⟨_, _, hx, h⟩
      cases hx
      exact h

theorem run_bind_error_iff {x : ExceptT Error OnDisk α} {f : α → ExceptT Error OnDisk β}
    {error : Error} :
    disk.run (x >>= f) = (.error error, after) ↔
      disk.run x = (.error error, after) ∨
        ∃ a next, disk.run x = (.ok a, next) ∧ next.run (f a) = (.error error, after) := by
  rw [run_bind]
  rcases disk.run x with ⟨refused | a, next⟩
  · simp
  · constructor
    · intro h
      exact Or.inr ⟨a, next, rfl, h⟩
    · rintro (hx | ⟨_, _, hx, h⟩)
      · cases hx
      · cases hx
        exact h

/-- What a step leaves true, and the next one keeps, both leave true. -/
theorem run_bind_preserves {I : Disk → Prop} {x : ExceptT Error OnDisk α}
    {f : α → ExceptT Error OnDisk β} (hx : I (disk.run x).2)
    (hf : ∀ a next, I next → I (next.run (f a)).2) : I (disk.run (x >>= f)).2 := by
  rw [run_bind]
  split
  · rename_i a next hrun
    rw [hrun] at hx
    exact hf a next hx
  · rename_i hrun
    rw [hrun] at hx
    exact hx

/-! ## Single steps -/

@[simp] theorem run_isThere (path : Path) :
    disk.run (Storage.isThere path) = (.ok (disk.isThere path), disk) := rfl

theorem run_attempt (step : FileStep) (operation : OnDisk (Except FileFault α)) :
    disk.run (Storage.attempt step operation) =
      match operation disk with
      | (.ok a, next) => (.ok a, next)
      | (.error fault, next) => (.error (.state (.file step fault)), next) := by
  have hopen : disk.run (Storage.attempt step operation) = (operation >>= _ : OnDisk _) disk := rfl
  rw [hopen, OnDisk.bind_run]
  rcases operation disk with ⟨fault | a, next⟩
  · rfl
  · rfl

/-- Whatever is told of an operation, the disk is the one that it leaves. -/
theorem run_attempt_disk (step : FileStep) (operation : OnDisk (Except FileFault α)) :
    (disk.run (Storage.attempt step operation)).2 = (operation disk).2 := by
  rw [run_attempt]
  rcases operation disk with ⟨fault | a, next⟩
  · rfl
  · rfl

theorem run_attempt_read (step : FileStep) (path : Path) :
    disk.run (Storage.attempt step (FileOperations.read path)) =
      ((disk.read path).mapError fun fault => .state (.file step fault), disk) := by
  have hread : (FileOperations.read path : OnDisk _) disk = (disk.read path, disk) := rfl
  rw [run_attempt, hread]
  cases disk.read path with
  | error fault => rfl
  | ok content => rfl

theorem run_attempt_touch (step : FileStep) (path : Path) :
    disk.run (Storage.attempt step (FileOperations.touch path)) =
      (((disk.sight path).map fun _ => ()).mapError fun fault => .state (.file step fault), disk) := by
  have htouch : (FileOperations.touch path : OnDisk _) disk = ((disk.find path).map fun _ => (), disk) :=
    rfl
  rw [run_attempt, htouch, ← find_kind]
  cases disk.find path with
  | error fault => rfl
  | ok node => rfl

/-- A change that goes through is one that the disk allows. -/
theorem run_attempt_change_ok_iff {step : FileStep} {operation : Disk → Except FileFault Disk} :
    disk.run (Storage.attempt step (OnDisk.change operation)) = (.ok (), after) ↔
      operation disk = .ok after := by
  rw [run_attempt]
  unfold OnDisk.change
  cases operation disk with
  | error fault => simp
  | ok changed => simp

/-- A change that the disk does not allow leaves it as it is. -/
theorem run_attempt_change_error_iff {step : FileStep} {operation : Disk → Except FileFault Disk}
    {error : Error} :
    disk.run (Storage.attempt step (OnDisk.change operation)) = (.error error, after) ↔
      ∃ fault, operation disk = .error fault ∧ error = .state (.file step fault) ∧ after = disk := by
  rw [run_attempt]
  unfold OnDisk.change
  cases operation disk with
  | error fault => simp [eq_comm]
  | ok changed => simp

/-! ## Making room -/

/-- What withstands the making of each directory around a path, making them all leaves true. -/
theorem run_makeRoom_preserves {I : Disk → Prop}
    (hmake : ∀ parent outer, path.parent? = some parent → parent.Around outer → ∀ disk made, I disk →
      disk.makeDirectory outer = .ok made → I made)
    (h : I disk) : I (disk.run (Storage.makeRoom path)).2 := by
  unfold Storage.makeRoom
  split
  · rename_i parent hparent
    rw [run_attempt_disk]
    exact OnDisk.makeDirectories_preserves (fun outer haround => hmake parent outer hparent haround) h
  · exact h

theorem run_makeRoom_grown (path : Path) (disk : Disk) : Grown disk (disk.run (Storage.makeRoom path)).2 :=
  run_makeRoom_preserves (fun _ _ _ _ _ _ hgrown hmade => hgrown.trans (.of_makeDirectory hmade))
    (.refl disk)

/-- Making the directories around the files adds folders at most. -/
theorem run_prepare_grown (storage : Storage) (disk : Disk) : Grown disk (disk.run storage.prepare).2 :=
  run_bind_preserves (run_makeRoom_grown storage.events disk) fun _ next hgrown =>
    hgrown.trans (run_makeRoom_grown storage.snapshot next)

/-! ## Loading -/

/-- The events of the log that a path leads to. -/
def logged (disk : Disk) (path : Path) : Except Error (List Event) :=
  match disk.sight path with
  | .error _ => .ok []
  | .ok .folder => .error (.state (.file .readEvents .isDirectory))
  | .ok (.file content) => (Event.ofRecords content).mapError Error.state

/-- The tickets of the snapshot that a path leads to. -/
def kept (disk : Disk) (path : Path) : Except Error (Option Registry) :=
  match disk.sight path with
  | .error _ => .ok none
  | .ok .folder => .error (.state (.file .readSnapshot .isDirectory))
  | .ok (.file content) =>
    match Registry.ofBytes? content with
    | some registry => .ok (some registry)
    | none => .error (.state (.badSnapshot .endOfData))

theorem isThere_of_error {fault : FileFault} (h : disk.sight path = .error fault) :
    disk.isThere path = false := by
  rw [Bool.eq_false_iff, ne_eq, isThere_iff, h]
  simp

theorem isThere_of_ok {kind : Kind} (h : disk.sight path = .ok kind) : disk.isThere path = true :=
  isThere_iff.2 ⟨kind, h⟩

/-- What is loaded from a file that may be missing. -/
theorem run_load (path : Path) (step : FileStep) (found : Bytes → ExceptT Error OnDisk α)
    (missing : ExceptT Error OnDisk α) (disk : Disk) :
    disk.run (do
        if ← Storage.isThere path then
          let content ← Storage.attempt step (FileOperations.read path)
          found content
        else
          missing) =
      match disk.sight path with
      | .error _ => disk.run missing
      | .ok .folder => (.error (.state (.file step .isDirectory)), disk)
      | .ok (.file content) => disk.run (found content) := by
  rw [run_bind, run_isThere]
  cases hsight : disk.sight path with
  | error fault =>
    rw [isThere_of_error hsight]
    rfl
  | ok kind =>
    rw [isThere_of_ok hsight]
    simp only [if_true]
    rw [run_bind, run_attempt_read]
    cases kind with
    | folder =>
      rw [read_of_folder hsight]
      rfl
    | file content =>
      rw [read_ok_iff.2 hsight]
      rfl

/-- Loading the events reads the log and changes nothing. -/
theorem run_loadEvents (storage : Storage) (disk : Disk) :
    disk.run storage.loadEvents = (disk.logged storage.events, disk) := by
  unfold Storage.loadEvents logged
  rw [run_load]
  rcases disk.sight storage.events with fault | content | _
  · rfl
  · dsimp only
    cases Event.ofRecords content <;> rfl
  · rfl

/-- Loading the tickets reads the snapshot and changes nothing. -/
theorem run_loadSnapshot (storage : Storage) (disk : Disk) :
    disk.run storage.loadSnapshot = (disk.kept storage.snapshot, disk) := by
  unfold Storage.loadSnapshot kept
  rw [run_load]
  rcases disk.sight storage.snapshot with fault | content | _
  · rfl
  · dsimp only
    cases Registry.ofBytes? content <;> rfl
  · rfl

end Disk

end RetryTickets
