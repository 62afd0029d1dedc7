-- A store and a sink with switches, to see how requests fare when a store
-- answers oddly or a sink refuses.
import RetryTickets.Event.Sink
import RetryTickets.Ticket.Registry

namespace RetryTickets.Bench

/-- What a store answers in the place of what it would answer. -/
structure Switches where
  /-- The size of every ticket, also of one that is not there. -/
  sizeBytes : Option UInt64
  /-- The timeout of every ticket that is there. -/
  timeout : Option UInt64
  /-- The number of every attempt that could be counted. -/
  sequence : Option UInt64
  /-- No ticket lives. -/
  openAbsent : Bool
  /-- The operation that is refused before anything else. -/
  failing : Option StoreOperation
  deriving DecidableEq

/-- All switches off. -/
def Switches.off : Switches := ⟨none, none, none, false, none⟩

/-- A registry behind switches. -/
structure SwitchedStore where
  registry : Registry
  switches : Switches

namespace SwitchedStore

/-- A question, unless its operation is switched to fail. -/
def ask {α : Type} (store : SwitchedStore) (operation : StoreOperation)
    (answer : Except Error α) : Except Error α :=
  if store.switches.failing = some operation then .error (.store (.unavailable operation))
  else answer

/-- A change, unless its operation is switched to fail. -/
def change {α : Type} (store : SwitchedStore) (operation : StoreOperation)
    (run : Registry → Except Error α × Registry) : Except Error α × SwitchedStore :=
  if store.switches.failing = some operation then
    (.error (.store (.unavailable operation)), store)
  else
    let (answer, registry) := run store.registry
    (answer, { store with registry := registry })

/-- An answer with another value in its place, if it is one. -/
def override (value : Option UInt64) (answer : Except Error UInt64) : Except Error UInt64 :=
  answer.map fun given => value.getD given

instance : TicketStore SwitchedStore where
  openTicket store key now :=
    store.ask .openTicket
      (if store.switches.openAbsent then .ok none else TicketStore.openTicket store.registry key now)
  sizeBytes store key now :=
    store.ask .sizeBytes
      (override store.switches.sizeBytes (TicketStore.sizeBytes store.registry key now))
  beneficiary store key := store.ask .beneficiary (TicketStore.beneficiary store.registry key)
  timeout store key :=
    store.ask .timeout (override store.switches.timeout (TicketStore.timeout store.registry key))
  delete key store := store.change .delete (TicketStore.delete key)
  extendExpiry key now newTimeout lifetime store :=
    store.change .extendExpiry (TicketStore.extendExpiry key now newTimeout lifetime)
  incrementAttempt key store :=
    let (answer, store) := store.change .incrementAttempt (TicketStore.incrementAttempt key)
    (override store.switches.sequence answer, store)

end SwitchedStore

/-- What a sink does with events. -/
inductive SinkMode where
  /-- It logs them. -/
  | log
  /-- It forgets them. -/
  | forget
  /-- It refuses them. -/
  | refuse
  deriving DecidableEq

/-- An event log behind a switch. -/
structure SwitchedSink where
  log : EventLog
  mode : SinkMode

instance : EventSink SwitchedSink where
  emit event sink :=
    match sink.mode with
    | .log => (.ok (), { sink with log := sink.log.push event })
    | .forget => (.ok (), sink)
    | .refuse => (.error (.state .logUnavailable), sink)

end RetryTickets.Bench
