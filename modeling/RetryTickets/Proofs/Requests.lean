-- What commands ask for: operations on a ledger in memory, which files in a
-- data directory mirror while requests are played on both.
import RetryTickets.CommandLine.Run
import RetryTickets.Proofs.Atomicity
import RetryTickets.Proofs.DataDirectories
import RetryTickets.Proofs.Operations

namespace RetryTickets

/-! ## In memory -/

/-- Whether an operation that goes through is kept. -/
def Operation.mutates : Operation → Bool
  | .create _ => true
  | .call request _ _ => ! request.isReadOnly
  | .complete _ _ => true

namespace CommandLine

/-- The operation that a command asks for when there are so many tickets, if it asks for one and
all that it is given can be read. -/
def Command.request (context : CallContext) (gasLimit : UInt64) (size : Nat) :
    Command → Except InputFault (Option Operation)
  | .init => .ok none
  | .create beneficiary target value calldata id =>
    (newTicket context size beneficiary target value calldata id).map fun ticket =>
      some (.create ticket)
  | .onTicket command id =>
    (TicketId.parse id).map fun id => some (.call (command.call id) context (.ofLimit gasLimit))
  | .complete id => (TicketId.parse id).map fun id => some (.complete id context.now)
  | .lifetime => .ok (some (.call .getLifetime context (.ofLimit gasLimit)))
  | .events none => .ok none
  | .events (some id) => (TicketId.parse id).map fun _ => none

/-- Whether a command is there to change tickets. -/
def Command.mutates : Command → Bool
  | .init => false
  | .create _ _ _ _ _ => true
  | .onTicket .cancel _ => true
  | .onTicket .keepalive _ => true
  | .onTicket .redeem _ => true
  | .onTicket .beneficiary _ => false
  | .onTicket .timeout _ => false
  | .complete _ => true
  | .lifetime => false
  | .events _ => false

/-- A ledger, and whether an operation on it was ever kept. -/
structure Memory where
  ledger : Ledger
  saved : Bool

namespace Memory

/-- No tickets, and nothing kept. -/
def start : Memory := ⟨.empty, false⟩

/-- What a snapshot has to hold. -/
def kept (memory : Memory) : Option Registry :=
  if memory.saved then some memory.ledger.registry else none

/-- Performs an operation. -/
def perform (memory : Memory) (operation : Operation) : Memory :=
  let (answer, ledger) := operation.perform memory.ledger
  ⟨ledger, memory.saved || (operation.mutates && answer.outcome.isOk)⟩

/-- Performs an operation, if one is asked for. -/
def step (memory : Memory) : Except InputFault (Option Operation) → Memory
  | .ok (some operation) => memory.perform operation
  | .ok none => memory
  | .error _ => memory

theorem step_of_perform {memory : Memory} {operation : Operation} {answer : Answer} {ledger : Ledger}
    (h : operation.perform memory.ledger = (answer, ledger)) :
    memory.step (.ok (some operation)) =
      ⟨ledger, memory.saved || (operation.mutates && answer.outcome.isOk)⟩ := by
  show memory.perform operation = _
  unfold perform
  rw [h]

end Memory

end CommandLine

/-! ## Operations that leave the ledger as it was -/

theorem Effect.of_isReadOnly {registry after : Registry} {call : Call} {context : CallContext}
    {meter : Meter} {events : List Event} (hcall : call.isReadOnly = true)
    (h : Effect registry (.call call context meter) after events) :
    after = registry ∧ events = [] := by
  cases h with
  | nothing => exact ⟨rfl, rfl⟩
  | canceled => cases hcall
  | extended => cases hcall
  | scheduled => cases hcall

/-- A log takes all that it is offered. -/
theorem Dispatch.offered_log (events : List Event) (log : EventLog) :
    offered events log = ⟨log.events ++ events⟩ := by
  rw [← deliver_offered .getLifetime, deliver_log]

namespace CommandLine

open Disk

/-! ## Files that mirror memory -/

/-- Files in which a ledger is kept: its events in the log, its tickets in the snapshot. -/
structure Mirrors (files : String → Option Bytes) (memory : Memory) : Prop where
  log : Event.Framed ((files "events.log").getD []) memory.ledger.events
  snapshot : files "tickets.bin" = memory.kept.map Registry.toBytes
  temporary : files "tickets.bin.tmp" = none
  unsaved : memory.saved = false → memory.ledger.registry = .empty

namespace Mirrors

variable {files : String → Option Bytes} {memory : Memory}

theorem start : Mirrors (fun _ => none) .start := ⟨.nil, rfl, rfl, fun _ => rfl⟩

/-- Without a snapshot there are no tickets. -/
theorem registry_eq (h : Mirrors files memory) :
    memory.kept.getD .empty = memory.ledger.registry := by
  unfold Memory.kept
  cases hsaved : memory.saved with
  | true => rfl
  | false => exact (h.unsaved hsaved).symm

theorem framed_logAfter {log : Option Bytes} {before events : List Event}
    (h : Event.Framed (log.getD []) before) :
    Event.Framed ((Keeps.logAfter log events).getD []) (before ++ events) := by
  induction events generalizing log before with
  | nil => simpa [Keeps.logAfter] using h
  | cons event rest ih =>
    have hnext : Event.Framed ((some (log.getD [] ++ event.record)).getD []) (before ++ [event]) :=
      h.append (Event.framed_record event)
    have hall := ih hnext
    rw [List.append_assoc, List.singleton_append] at hall
    exact hall

/-- A commit keeps the tickets and the events that are new. -/
theorem commit (h : Mirrors files memory) (registry : Registry) (events : List Event) :
    Mirrors (Function.update
        (Function.update files "events.log" (Keeps.logAfter (files "events.log") events))
        "tickets.bin" (some registry.toBytes))
      ⟨⟨registry, memory.ledger.events ++ events⟩, true⟩ := by
  refine ⟨?_, ?_, ?_, ?_⟩
  · rw [Function.update_of_ne (by decide), Function.update_self]
    exact framed_logAfter h.log
  · rw [Function.update_self]
    rfl
  · rw [Function.update_of_ne (by decide), Function.update_of_ne (by decide)]
    exact h.temporary
  · intro hsaved
    cases hsaved

end Mirrors

/-! ## A request on files and in memory -/

/-- A request that does to files what it does in memory, and answers the same. -/
structure Plays (memory : Memory) (request : Except InputFault (Option Operation)) (mutates : Bool)
    (result : Except Error Unit) (files after : String → Option Bytes) : Prop where
  mirrors : Mirrors after (memory.step request)
  refused : ∀ fault, request = .error fault → result = .error (.input fault)
  answered : ∀ operation, request = .ok (some operation) →
    result = (operation.perform memory.ledger).1.outcome
  unchanged : result ≠ .ok () ∨ mutates = false → after = files

namespace Plays

variable {files : String → Option Bytes} {memory : Memory} {operation : Operation} {answer : Answer}

theorem of_fault (h : Mirrors files memory) (fault : InputFault) (mutates : Bool) :
    Plays memory (.error fault) mutates (.error (.input fault)) files files := by
  refine ⟨h, fun other hother => ?_, fun operation hoperation => ?_, fun _ => rfl⟩
  · cases hother
    rfl
  · cases hoperation

theorem of_none (h : Mirrors files memory) (result : Except Error Unit) (mutates : Bool) :
    Plays memory (.ok none) mutates result files files := by
  refine ⟨h, fun fault hfault => ?_, fun operation hoperation => ?_, fun _ => rfl⟩
  · cases hfault
  · cases hoperation

/-- An operation that is refused, or only asks, is not kept. -/
theorem of_unchanged (h : Mirrors files memory)
    (hperform : operation.perform memory.ledger = (answer, memory.ledger))
    (hkept : (operation.mutates && answer.outcome.isOk) = false) (mutates : Bool) :
    Plays memory (.ok (some operation)) mutates answer.outcome files files := by
  refine ⟨?_, fun fault hfault => ?_, fun other hother => ?_, fun _ => rfl⟩
  · have hstep := Memory.step_of_perform hperform
    simp only [hkept, Bool.or_false] at hstep
    rw [hstep]
    exact h
  · cases hfault
  · cases hother
    rw [hperform]

/-- An operation that goes through is kept by a commit. -/
theorem of_committed {registry : Registry} {events : List Event} (h : Mirrors files memory)
    (hperform : operation.perform memory.ledger =
      (answer, ⟨registry, memory.ledger.events ++ events⟩))
    (hmutates : operation.mutates = true) (hanswer : answer.outcome = .ok ()) :
    Plays memory (.ok (some operation)) true (.ok ()) files
      (Function.update
        (Function.update files "events.log" (Keeps.logAfter (files "events.log") events))
        "tickets.bin" (some registry.toBytes)) := by
  refine ⟨?_, fun fault hfault => ?_, fun other hother => ?_, fun hsame => ?_⟩
  · have hstep := Memory.step_of_perform hperform
    simp only [hmutates, hanswer, Except.isOk, Except.toBool, Bool.and_self, Bool.or_true] at hstep
    rw [hstep]
    exact h.commit registry events
  · cases hfault
  · cases hother
    rw [hperform]
    exact hanswer.symm
  · rcases hsame with hsame | hsame
    · exact absurd rfl hsame
    · cases hsame

end Plays

end CommandLine

end RetryTickets
