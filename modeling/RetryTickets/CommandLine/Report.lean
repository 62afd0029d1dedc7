-- What commands report: the receipt of a call, a new ticket, and events.
import RetryTickets.CommandLine.Layout
import RetryTickets.Dispatch

namespace RetryTickets.Report

open Layout

/-- A text that is always there. -/
def always (text : String) : Content := .always (.text text)

/-- A number that is always there. -/
def number (n : UInt64) : Content := .always (.number n.toNat)

/-- A receipt, with the gas that is left. -/
def ofReceipt (receipt : Receipt) (gasRemaining : UInt64) : Record := {
  name := "ReceiptOutput"
  fields := [
    ("success", .always (.flag receipt.isSuccess)),
    ("output", always receipt.output.text),
    ("return_word", always receipt.output.word.text),
    ("gas_used", number receipt.gasUsed),
    ("gas_remaining", number gasRemaining),
    ("error", .maybe (receipt.error.map fun error => .text error.message))] }

/-- A ticket, with the storage it takes. -/
def ofTicket (ticket : Ticket) : Record := {
  name := "TicketOutput"
  fields := [
    ("ticket_id", always ticket.id.text),
    ("from", always ticket.sender.text),
    ("to", always ticket.target.text),
    ("call_value", always (toString ticket.value.toNat)),
    ("beneficiary", always ticket.beneficiary.text),
    ("calldata", always ("0x" ++ String.ofList (Hex.encode ticket.calldata))),
    ("timeout", number ticket.timeout),
    ("num_tries", number ticket.attempts),
    ("size_bytes", number ticket.sizeBytes)] }

/-- The timeout that an event sets. -/
def newTimeout? : Event → Option UInt64
  | .extended _ timeout => some timeout
  | _ => none

/-- The attempt that an event announces: its name, number, gas and donor. -/
def attempt? : Event → Option (TicketId × UInt64 × UInt64 × Address)
  | .scheduled _ retry sequence donatedGas donor => some (retry, sequence, donatedGas, donor)
  | _ => none

/-- An event. -/
def ofEvent (event : Event) : Record :=
  let ofAttempt := fun (f : TicketId × UInt64 × UInt64 × Address → Value) =>
    Content.maybe ((attempt? event).map f)
  { name := "EventOutput"
    fields := [
      ("kind", always event.kind.name),
      ("ticket_id", always event.ticket.text),
      ("new_timeout", .maybe ((newTimeout? event).map fun t => .number t.toNat)),
      ("retry_tx_id", ofAttempt fun (retry, _, _, _) => .text retry.text),
      ("sequence_num", ofAttempt fun (_, sequence, _, _) => .number sequence.toNat),
      ("donated_gas", ofAttempt fun (_, _, gas, _) => .number gas.toNat),
      ("gas_donor", ofAttempt fun (_, _, _, donor) => .text donor.text)] }

end RetryTickets.Report
