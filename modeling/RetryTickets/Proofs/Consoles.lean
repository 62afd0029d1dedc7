-- Programs of the command line on a disk in memory, step by step. What they
-- print is left out here: it has no part in what they answer or do.
import RetryTickets.CommandLine.Run
import RetryTickets.Proofs.Programs

namespace RetryTickets.CommandLine

/-- Whatever was printed before, the program answers this and leaves this disk. -/
def Comes {α : Type} (program : Console OnDisk α) (disk : Disk) (result : Except Error α)
    (next : Disk) : Prop :=
  ∀ lines, ∃ printed,
    StateT.run (ExceptT.run program) lines disk = ((result, printed), next)

namespace Comes

variable {α β : Type} {disk middle next : Disk}

theorem pure (a : α) (disk : Disk) : Comes (Pure.pure a : Console OnDisk α) disk (.ok a) disk :=
  fun lines => ⟨lines, rfl⟩

theorem throw (error : Error) (disk : Disk) :
    Comes (MonadExcept.throw error : Console OnDisk α) disk (.error error) disk :=
  fun lines => ⟨lines, rfl⟩

/-- A program in front of another one runs first. -/
theorem run_bind (x : Console OnDisk α) (f : α → Console OnDisk β) (lines : List Line) (disk : Disk) :
    StateT.run (ExceptT.run (x >>= f)) lines disk =
      StateT.run (ExceptT.bindCont f (StateT.run (ExceptT.run x) lines disk).1.1)
        (StateT.run (ExceptT.run x) lines disk).1.2 (StateT.run (ExceptT.run x) lines disk).2 := rfl

theorem bind {x : Console OnDisk α} {f : α → Console OnDisk β} {a : α} {result : Except Error β}
    (hx : Comes x disk (.ok a) middle) (hf : Comes (f a) middle result next) :
    Comes (x >>= f) disk result next := by
  intro lines
  obtain ⟨between, hx⟩ := hx lines
  obtain ⟨printed, hf⟩ := hf between
  refine ⟨printed, ?_⟩
  rw [run_bind, hx]
  exact hf

/-- A program that is refused goes no further. -/
theorem bind_error {x : Console OnDisk α} {f : α → Console OnDisk β} {error : Error}
    (hx : Comes x disk (.error error) next) : Comes (x >>= f) disk (.error error) next := by
  intro lines
  obtain ⟨printed, hx⟩ := hx lines
  refine ⟨printed, ?_⟩
  rw [run_bind, hx]
  rfl

theorem print (lines : List Line) (disk : Disk) : Comes (Console.print lines) disk (.ok ()) disk :=
  fun before => ⟨before ++ lines, rfl⟩

theorem answer (text : String) (disk : Disk) : Comes (Console.answer text) disk (.ok ()) disk :=
  print _ disk

theorem stored {step : ExceptT Error OnDisk α} {result : Except Error α}
    (h : disk.run step = (result, next)) : Comes (Console.stored step) disk result next := by
  intro lines
  refine ⟨lines, ?_⟩
  show (((disk.run step).1, lines), (disk.run step).2) = _
  rw [h]

theorem given {value : Except InputFault α} {a : α} (h : value = .ok a) (disk : Disk) :
    Comes (Console.given value) disk (.ok a) disk := by
  rw [h]
  exact pure a disk

theorem given_error {value : Except InputFault α} {fault : InputFault} (h : value = .error fault)
    (disk : Disk) : Comes (Console.given value) disk (.error (.input fault)) disk := by
  rw [h]
  exact throw (.input fault) disk

/-- A request that goes through answers with what it leaves. -/
theorem perform {action : Action Registry EventLog α} {registry : Registry} {a : α}
    {scene : Scene Registry EventLog} (level : Level) (disk : Disk)
    (h : action ⟨registry, .empty, .ofLimit 0, []⟩ = .ok a scene) :
    Comes (Console.perform level registry action) disk (.ok (a, scene.store, scene.sink.events))
      disk := by
  unfold Console.perform
  rw [show action.run _ = _ from h]
  exact bind (print _ disk) (pure _ disk)

theorem perform_error {action : Action Registry EventLog α} {registry : Registry} {error : Error}
    {scene : Scene Registry EventLog} (level : Level) (disk : Disk)
    (h : action ⟨registry, .empty, .ofLimit 0, []⟩ = .error error scene) :
    Comes (Console.perform level registry action) disk (.error error) disk := by
  unfold Console.perform
  rw [show action.run _ = _ from h]
  exact bind (print _ disk) (throw error disk)

/-- The transcript of a program tells what it comes to. -/
theorem transcript {program : Console OnDisk α} {result : Except Error α}
    (h : Comes program disk result next) :
    ∃ printed, (Console.transcript program : OnDisk _) disk = ((result, printed), next) :=
  h []

end Comes

end RetryTickets.CommandLine
