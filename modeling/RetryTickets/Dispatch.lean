-- The outer operations: calls that happen wholly or not at all, the making of
-- tickets and the end of redeemed ones.
import RetryTickets.Controller
import RetryTickets.Ticket.Registry

namespace RetryTickets

/-- What came of a call. -/
structure Receipt where
  output : Output
  gasUsed : UInt64
  error : Option Error
  deriving DecidableEq

namespace Receipt

/-- Whether the call went through. -/
def isSuccess (receipt : Receipt) : Bool := receipt.error.isNone

/-- The answer, or why there is none. -/
def result (receipt : Receipt) : Except Error Output :=
  match receipt.error with
  | none => .ok receipt.output
  | some error => .error error

end Receipt

namespace Dispatch

variable {σ κ : Type} [EventSink κ]

/-- Hands events to the sink, one after the other. An event that the sink refuses is lost,
and the next one is offered all the same. -/
def deliver (call : Call) : List Event → κ → κ × List Notice
  | [], sink => (sink, [])
  | event :: rest, sink =>
    match EventSink.emit event sink with
    | (.ok (), sink) => deliver call rest sink
    | (.error error, sink) =>
      let (sink, notices) := deliver call rest sink
      (sink, .dropped call error :: notices)

/-- Tries a call on the store with an event log of its own. If it goes through, the store is
kept and the events go to the sink; if not, only the gas is gone. -/
def execute [TicketStore σ] (call : Call) (context : CallContext) (scene : Scene σ κ) :
    Receipt × Scene σ κ :=
  let trial : Scene σ EventLog := ⟨scene.store, .empty, scene.meter, scene.notices⟩
  match call.act context trial with
  | .ok output done =>
    let (sink, dropped) := deliver call done.sink.events scene.sink
    (⟨output, done.meter.burned - scene.meter.burned, none⟩,
      ⟨done.store, sink, done.meter, done.notices ++ dropped⟩)
  | .error error stopped =>
    (⟨call.zeroOutput, stopped.meter.burned - scene.meter.burned, some error⟩,
      ⟨scene.store, scene.sink, stopped.meter,
        stopped.notices ++ [.failed call context.caller error]⟩)

/-- Makes a ticket. If the sink refuses the event, the ticket is there all the same. -/
def createTicket (ticket : Ticket) : Action Registry κ TicketId := do
  Action.change (Registry.insert ticket)
  Action.tell (.created ticket.id)
  Action.offer (.created ticket.id)
  return ticket.id

/-- Ends a ticket whose call went through. -/
def completeRedeem [TicketStore σ] (id : TicketId) (now : UInt64) : Action σ κ Unit := do
  Controller.requireLive id now
  let _ ← Action.change (TicketStore.delete id)
  Action.tell (.redeemed id)
  Action.offer (.redeemed id)

end Dispatch

end RetryTickets
