-- A session at the bench: single operations, one after the other, on a
-- switched store and sink, a gas meter and files.
import RetryTickets.Bench.FileCommand
import RetryTickets.Bench.Switches
import RetryTickets.Dispatch
import RetryTickets.Storage

namespace RetryTickets.Bench

/-- All that lasts from one operation to the next. -/
structure Session where
  store : SwitchedStore
  sink : SwitchedSink
  meter : Meter
  level : Level
  storage : Storage
  disk : Disk

/-- Nothing stored, nothing logged and no gas, on a disk without files. -/
def Session.start (working : String) : Session := {
  store := ⟨.empty, .off⟩
  sink := ⟨.empty, .log⟩
  meter := .ofLimit 0
  level := .info
  storage := ⟨.ofText "data/events.log", .ofText "data/tickets.bin"⟩
  disk := .blank working }

/-- An operation. Those from `create` to `tickets`, and those on the snapshot, see the store
without its switches. -/
inductive Command where
  | create (ticket : Ticket)
  | insert (ticket : Ticket)
  | get (id : TicketId)
  | tickets
  | execute (call : Call) (context : CallContext)
  /-- A call without dispatch around it. -/
  | control (call : Call) (context : CallContext)
  | complete (id : TicketId) (now : UInt64)
  | openTicket (id : TicketId) (now : UInt64)
  | delete (id : TicketId)
  | sizeBytes (id : TicketId) (now : UInt64)
  | extendExpiry (id : TicketId) (now newTimeout lifetime : UInt64)
  | incrementAttempt (id : TicketId)
  | timeout (id : TicketId)
  | beneficiary (id : TicketId)
  | look
  | burn (amount : UInt64)
  | setSwitches (switches : Switches)
  | setSink (mode : SinkMode)
  | setLevel (level : Level)
  | setStorage (storage : Storage)
  | appendEvent (event : Event)
  | loadEvents
  | persist
  | loadSnapshot
  /-- Commits the store and the logged events from an index on. -/
  | commit (first : Nat)
  | onFiles (command : FileCommand)
  deriving DecidableEq

/-- The answer to an operation. -/
inductive Reply where
  | done
  | id (id : TicketId)
  | address (address : Address)
  | number (number : UInt64)
  | ticket (ticket : Option Ticket)
  | tickets (tickets : List Ticket)
  | events (events : List Event)
  | output (output : Output)
  | receipt (receipt : Receipt)
  /-- How many tickets were loaded, if there was a snapshot. -/
  | loaded (size : Option Nat)
  deriving DecidableEq

/-- What an operation answered, what it printed and which events it logged. -/
structure Outcome where
  reply : Except Error Reply
  lines : List Line
  events : List Event

namespace Session

/-- The scene of a request. -/
def scene (session : Session) : Scene SwitchedStore SwitchedSink :=
  ⟨session.store, session.sink, session.meter, []⟩

/-- Plays a request on a scene, and puts what is left of it back into the session. -/
def play {σ α : Type} (session : Session) (scene : Scene σ SwitchedSink)
    (back : σ → SwitchedStore) (action : Action σ SwitchedSink α) (reply : α → Reply) :
    Except Error Reply × List Notice × Session :=
  let keep := fun (after : Scene σ SwitchedSink) =>
    { session with store := back after.store, sink := after.sink, meter := after.meter }
  match action.run scene with
  | .ok a after => (.ok (reply a), after.notices, keep after)
  | .error error after => (.error error, after.notices, keep after)

/-- Plays a request on the switched store. -/
def request {α : Type} (session : Session) (action : Action SwitchedStore SwitchedSink α)
    (reply : α → Reply) : Except Error Reply × List Notice × Session :=
  session.play session.scene id action reply

/-- Plays a request on the store without its switches. -/
def plainly {α : Type} (session : Session) (action : Action Registry SwitchedSink α)
    (reply : α → Reply) : Except Error Reply × List Notice × Session :=
  session.play ⟨session.store.registry, session.sink, session.meter, []⟩
    (fun registry => { session.store with registry := registry }) action reply

/-- Runs a step of storage. -/
def onDisk {α : Type} (session : Session) (step : ExceptT Error OnDisk α)
    (back : α → Session → Reply × Session) : Except Error Reply × List Notice × Session :=
  let (result, disk) := step.run session.disk
  let session := { session with disk := disk }
  match result with
  | .error error => (.error error, [], session)
  | .ok a =>
    let (reply, session) := back a session
    (.ok reply, [], session)

/-- Runs an operation. -/
def run (session : Session) : Command → Except Error Reply × List Notice × Session
  | .create ticket => session.plainly (Dispatch.createTicket ticket) .id
  | .insert ticket => session.plainly (Action.change (Registry.insert ticket)) fun _ => .done
  | .get id => (.ok (.ticket (session.store.registry.get? id)), [], session)
  | .tickets => (.ok (.tickets session.store.registry.tickets), [], session)
  | .execute call context =>
    let (receipt, after) := Dispatch.execute call context session.scene
    (.ok (.receipt receipt), after.notices,
      { session with store := after.store, sink := after.sink, meter := after.meter })
  | .control call context => session.request (call.act context) .output
  | .complete id now => session.request (Dispatch.completeRedeem id now) fun _ => .done
  | .openTicket id now =>
    session.request (Action.ask fun store => TicketStore.openTicket store id now) .ticket
  | .delete id => session.request (Action.change (TicketStore.delete id)) .number
  | .sizeBytes id now =>
    session.request (Action.ask fun store => TicketStore.sizeBytes store id now) .number
  | .extendExpiry id now newTimeout lifetime =>
    session.request (Action.change (TicketStore.extendExpiry id now newTimeout lifetime))
      fun _ => .done
  | .incrementAttempt id =>
    session.request (Action.change (TicketStore.incrementAttempt id)) .number
  | .timeout id => session.request (Action.ask fun store => TicketStore.timeout store id) .number
  | .beneficiary id =>
    session.request (Action.ask fun store => TicketStore.beneficiary store id) .address
  | .look => (.ok .done, [], session)
  | .burn amount => session.request (Action.charge amount) fun _ => .done
  | .setSwitches switches =>
    (.ok .done, [], { session with store := { session.store with switches := switches } })
  | .setSink mode => (.ok .done, [], { session with sink := { session.sink with mode := mode } })
  | .setLevel level => (.ok .done, [], { session with level := level })
  | .setStorage storage => (.ok .done, [], { session with storage := storage })
  | .appendEvent event =>
    session.onDisk (session.storage.appendEvent event) fun _ after => (.done, after)
  | .loadEvents => session.onDisk session.storage.loadEvents fun events after =>
    (.events events, after)
  | .persist => session.onDisk (session.storage.persist session.store.registry)
    fun _ after => (.done, after)
  | .loadSnapshot => session.onDisk session.storage.loadSnapshot fun loaded after =>
    match loaded with
    | none => (.loaded none, after)
    | some registry =>
      (.loaded (some registry.size),
        { after with store := { after.store with registry := registry } })
  | .commit first =>
    let events := session.sink.log.events.drop first
    session.onDisk (session.storage.commit session.store.registry events)
      fun _ after => (.done, after)
  | .onFiles command =>
    let (_, disk) := command.run session.disk
    (.ok .done, [], { session with disk := disk })

/-- Runs an operation, with fresh gas if some is given, and tells what came of it. -/
def perform (session : Session) (gas : Option UInt64) (command : Command) : Outcome × Session :=
  let session := { session with meter := (gas.map Meter.ofLimit).getD session.meter }
  let (reply, notices, after) := session.run command
  (⟨reply, Notice.lines after.level notices,
    after.sink.log.events.drop session.sink.log.size⟩, after)

end Session

end RetryTickets.Bench
