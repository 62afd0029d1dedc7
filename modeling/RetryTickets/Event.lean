-- What happened to tickets: five kinds of event, and what logging one costs.
import RetryTickets.Gas
import RetryTickets.Identifier

namespace RetryTickets

/-- The kinds of event, in the order of their numbers in a log. -/
inductive EventKind where
  | created
  | extended
  | scheduled
  | redeemed
  | canceled
  deriving DecidableEq

namespace EventKind

/-- All kinds, in order. -/
def all : List EventKind := [created, extended, scheduled, redeemed, canceled]

/-- The name of a kind. -/
def name : EventKind → String
  | created => "TicketCreated"
  | extended => "LifetimeExtended"
  | scheduled => "RedeemScheduled"
  | redeemed => "Redeemed"
  | canceled => "Canceled"

/-- How many indexed fields and how many words of data an event has. -/
def layout : EventKind → UInt64 × UInt64
  | created => (1, 0)
  | extended => (1, 1)
  | scheduled => (3, 2)
  | redeemed => (1, 0)
  | canceled => (1, 0)

/-- What logging an event costs: one topic for its kind, one for each indexed field. -/
def gasCost (kind : EventKind) : UInt64 :=
  Gas.logEntry (1 + kind.layout.1) (kind.layout.2 * Gas.wordSize)

end EventKind

/-- Something that happened to a ticket. -/
inductive Event where
  /-- The ticket was made. -/
  | created (ticket : TicketId)
  /-- The ticket now ends at `timeout`. -/
  | extended (ticket : TicketId) (timeout : UInt64)
  /-- Attempt number `sequence` at the ticket's call, with the gas that its donor gave. -/
  | scheduled (ticket retry : TicketId) (sequence donatedGas : UInt64) (donor : Address)
  /-- The ticket's call went through and the ticket is gone. -/
  | redeemed (ticket : TicketId)
  /-- The ticket was given up by its beneficiary and is gone. -/
  | canceled (ticket : TicketId)
  deriving DecidableEq

namespace Event

/-- The kind of an event. -/
def kind : Event → EventKind
  | created _ => .created
  | extended _ _ => .extended
  | scheduled _ _ _ _ _ => .scheduled
  | redeemed _ => .redeemed
  | canceled _ => .canceled

/-- The ticket an event is about. -/
def ticket : Event → TicketId
  | created id => id
  | extended id _ => id
  | scheduled id _ _ _ _ => id
  | redeemed id => id
  | canceled id => id

/-- What logging an event costs. -/
def gasCost (event : Event) : UInt64 := event.kind.gasCost

end Event

end RetryTickets
