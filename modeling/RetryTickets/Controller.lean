-- What each call does, step by step. A call that is refused midway leaves its
-- earlier steps behind; undoing them is left to dispatch.
import RetryTickets.Action
import RetryTickets.Hash.Keccak256

namespace RetryTickets

/-- The name of an attempt: the hash of the ticket's id and the attempt's number, each in a
word of its own. -/
def TicketId.retry (id : TicketId) (sequence : UInt64) : TicketId :=
  Keccak256.digest (id.toBytes ++ List.replicate 24 0 ++ Bytes.big 8 sequence.toNat)

namespace Controller

variable {σ κ : Type} [TicketStore σ] [EventSink κ]

/-- Refuses unless the ticket lives. -/
def requireLive (id : TicketId) (now : UInt64) : Action σ κ Unit := do
  match ← Action.ask fun store => TicketStore.openTicket store id now with
  | some _ => pure ()
  | none => throw .notFound

/-- Gives a ticket up: only its beneficiary may. -/
def cancel (context : CallContext) (id : TicketId) : Action σ κ Unit := do
  requireLive id context.now
  let beneficiary ← Action.ask fun store => TicketStore.beneficiary store id
  if context.caller ≠ beneficiary then
    throw (.unauthorized context.caller beneficiary)
  let _ ← Action.change (TicketStore.delete id)
  Action.tell (.canceled id context.caller)
  Action.emit (.canceled id)

/-- Who may give a live ticket up. -/
def beneficiary (context : CallContext) (id : TicketId) : Action σ κ Address := do
  requireLive id context.now
  Action.ask fun store => TicketStore.beneficiary store id

/-- When a live ticket ends. -/
def timeout (context : CallContext) (id : TicketId) : Action σ κ UInt64 := do
  requireLive id context.now
  Action.ask fun store => TicketStore.timeout store id

/-- Lets a ticket live for a lifetime from now, however much of the last one is left. The
price hangs on its size, and a ticket without size is not there. -/
def keepalive (context : CallContext) (id : TicketId) : Action σ κ UInt64 := do
  let size ← Action.ask fun store => TicketStore.sizeBytes store id context.now
  if size = 0 then
    throw .notFound
  let cost ← Action.price (Gas.keepalive size)
  Action.charge cost
  match Gas.plus? context.now Ticket.lifetime with
  | none => throw (.store .timeoutOverflow)
  | some latest =>
    Action.change (TicketStore.extendExpiry id context.now latest Ticket.lifetime)
    requireLive id context.now
    let newTimeout ← Action.ask fun store => TicketStore.timeout store id
    Action.tell (.extended id newTimeout)
    Action.emit (.extended id newTimeout)
    return newTimeout

/-- Attempts a ticket's call. The attempt is given all the gas that is left after reading the
ticket; the caller keeps what encoding the answer costs. -/
def redeem (context : CallContext) (id : TicketId) : Action σ κ TicketId := do
  let size ← Action.ask fun store => TicketStore.sizeBytes store id context.now
  let cost ← Action.price (Gas.redeemRead size)
  Action.charge cost
  requireLive id context.now
  let sequence ← Action.change (TicketStore.incrementAttempt id)
  let retry := TicketId.retry id sequence
  let donated ← Action.gasLeft
  Action.emit (.scheduled id retry sequence donated context.caller)
  let left ← Action.gasLeft
  if left < Gas.returnEncoding then
    Action.charge Gas.returnEncoding
  Action.charge (left - Gas.returnEncoding)
  Action.tell (.scheduled sequence id retry)
  return retry

end Controller

/-- What a call does. -/
def Call.act {σ κ : Type} [TicketStore σ] [EventSink κ] (context : CallContext) :
    Call → Action σ κ Output
  | .cancel id => do
    Controller.cancel context id
    return .unit
  | .getBeneficiary id => do return .address (← Controller.beneficiary context id)
  | .getLifetime => return .timestamp Ticket.lifetime
  | .getTimeout id => do return .timestamp (← Controller.timeout context id)
  | .keepalive id => do return .timestamp (← Controller.keepalive context id)
  | .redeem id => do return .ticketId (← Controller.redeem context id)

end RetryTickets
