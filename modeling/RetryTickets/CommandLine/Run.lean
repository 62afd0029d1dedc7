-- Running a command: settings first, then what the command does on the files,
-- and what it prints on the way. What was printed before a refusal stays.
import RetryTickets.CommandLine.Arguments
import RetryTickets.CommandLine.Report
import RetryTickets.Config
import RetryTickets.Hash.Sha256
import RetryTickets.Storage

namespace RetryTickets.CommandLine

/-- A program that uses files, prints lines and may be refused. -/
abbrev Console (m : Type → Type) := ExceptT Error (StateT (List Line) m)

/-- What holds for all steps of a run. -/
structure Run where
  config : Config
  storage : Storage
  level : Level
  context : CallContext

/-- The id of a ticket for which none is given: the hash of its sender, the time and the
number of tickets there are. -/
def deriveId (context : CallContext) (size : Nat) : TicketId :=
  Sha256.digest (context.caller.toBytes ++ Bytes.big 8 context.now.toNat ++ Bytes.big 8 size)

/-- The calldata that a text spells. -/
def parseCalldata (text : String) : Except InputFault Bytes :=
  match Hex.decode (Text.toBytes (Text.withoutMarks text.toList)) with
  | .ok calldata => .ok calldata
  | .error fault => .error (.badHex "calldata" fault)

/-- The ticket that a create command describes. Its values are checked in this order: id,
calldata, the end of its life, target, beneficiary. -/
def newTicket (context : CallContext) (size : Nat) (beneficiary target : String)
    (value : BitVec 128) (calldata : String) (id : Option String) : Except InputFault Ticket := do
  let id ← match id with
    | some text => TicketId.parse text
    | none => pure (deriveId context size)
  let calldata ← parseCalldata calldata
  let timeout ← match Gas.plus? context.now Ticket.lifetime with
    | some timeout => pure timeout
    | none => throw .timestampOverflow
  let target ← Address.parse target
  let beneficiary ← Address.parse beneficiary
  return {
    id := id
    sender := context.caller
    target := target
    value := value
    beneficiary := beneficiary
    calldata := calldata
    timeout := timeout
    attempts := 0 }

/-- The settings of an invocation, in an environment. -/
def configOf (working : Path) (environment : Environment) (invocation : Invocation) : Config :=
  let config := Config.ofEnvironment working environment
  { config with
    dataDirectory := (invocation.dataDirectory.map Path.ofText).getD config.dataDirectory
    outputFormat := invocation.format.getD config.outputFormat
    gasLimit := invocation.gas.getD config.gasLimit }

namespace Console

variable {m : Type → Type} [Monad m]

/-- Prints lines. -/
def print (lines : List Line) : Console m Unit := do
  modify (· ++ lines)

/-- Prints a text as an answer. -/
def answer (text : String) : Console m Unit := print [⟨.out, text⟩]

/-- A value that a caller wrote. -/
def given {α : Type} (value : Except InputFault α) : Console m α :=
  match value with
  | .ok a => return a
  | .error fault => throw (.input fault)

/-- A step of storage. -/
def stored {α : Type} (step : ExceptT Error m α) : Console m α :=
  ExceptT.mk (StateT.lift step.run)

/-- Runs an action on a registry with a new event log, and prints its notices. -/
def perform {α : Type} (level : Level) (registry : Registry) (action : Action Registry EventLog α) :
    Console m (α × Registry × List Event) := do
  match action.run ⟨registry, .empty, .ofLimit 0, []⟩ with
  | .ok a scene =>
    print (Notice.lines level scene.notices)
    return (a, scene.store, scene.sink.events)
  | .error error scene =>
    print (Notice.lines level scene.notices)
    throw error

/-- What a program answers, and all that it printed. -/
def transcript {α : Type} (program : Console m α) : m (Except Error α × List Line) :=
  StateT.run (ExceptT.run program) []

end Console

namespace Run

variable {m : Type → Type} [Monad m] [FileOperations m]

open Console

/-- The tickets so far; without a snapshot there are none. -/
def registry (run : Run) : Console m Registry := do
  return (← stored run.storage.loadSnapshot).getD .empty

/-- Makes the data directory. -/
def init (run : Run) : Console m Unit := do
  let directory := run.config.dataDirectory
  stored (Storage.attempt .createDirectory (FileOperations.makeDirectories directory))
  answer ("Initialized data directory at: " ++ directory.text)

/-- Makes a ticket. -/
def create (run : Run) (beneficiary target : String) (value : BitVec 128) (calldata : String)
    (id : Option String) : Console m Unit := do
  let registry ← run.registry
  let ticket ← given (newTicket run.context registry.size beneficiary target value calldata id)
  let (_, registry, events) ← perform run.level registry (Dispatch.createTicket ticket)
  stored (run.storage.commit registry events)
  answer (Layout.render run.config.outputFormat (Report.ofTicket ticket))

/-- Ends a ticket whose call went through. -/
def complete (run : Run) (id : String) : Console m Unit := do
  let id ← given (TicketId.parse id)
  let registry ← run.registry
  let (_, registry, events) ←
    perform run.level registry (Dispatch.completeRedeem id run.context.now)
  stored (run.storage.commit registry events)
  answer ("✓ Ticket " ++ id.text ++ " redeemed")

/-- Lists the events, of one ticket or of all. -/
def events (run : Run) (ticket : Option String) : Console m Unit := do
  let ticket ← match ticket with
    | some text => do
      let id ← given (TicketId.parse text)
      pure (some id)
    | none => pure none
  let events ← stored run.storage.loadEvents
  let listed := events.filter fun event => ticket.all (event.ticket = ·)
  answer (Layout.renderList run.config.outputFormat (listed.map Report.ofEvent))

/-- Makes a call. A call that goes through and is no question is committed; its receipt is
printed in any case. -/
def call (run : Run) (call : Call) : Console m Unit := do
  let registry ← run.registry
  let scene : Scene Registry EventLog := ⟨registry, .empty, .ofLimit run.config.gasLimit, []⟩
  let (receipt, scene) := Dispatch.execute call run.context scene
  print (Notice.lines run.level scene.notices)
  if receipt.isSuccess && ! call.isReadOnly then
    stored (run.storage.commit scene.store scene.sink.events)
  answer (Layout.render run.config.outputFormat
    (Report.ofReceipt receipt scene.meter.remaining))
  match receipt.error with
  | some error => throw error
  | none => return ()

/-- Runs a command. -/
def command (run : Run) : Command → Console m Unit
  | .init => run.init
  | .create beneficiary target value calldata id =>
    run.create beneficiary target value calldata id
  | .onTicket command id => do run.call (command.call (← given (TicketId.parse id)))
  | .complete id => run.complete id
  | .lifetime => run.call .getLifetime
  | .events ticket => run.events ticket

end Run

/-- Runs an invocation. The clock counts only if no time is given, and without a caller the
zero address calls. -/
def execute {m : Type → Type} [Monad m] [FileOperations m] (working : Path)
    (environment : Environment) (clock : UInt64) (invocation : Invocation) : Console m Unit := do
  let config := configOf working environment invocation
  let caller ← match invocation.caller with
    | some text => Console.given (Address.parse text)
    | none => pure .zero
  let run : Run := {
    config := config
    storage := ⟨config.eventLogPath, config.snapshotPath⟩
    level := Level.ofText config.logLevel
    context := ⟨caller, invocation.now.getD clock⟩ }
  run.command invocation.command

end RetryTickets.CommandLine
