-- A registry as it stands in a file: the number of entries, then each key and
-- its ticket. Numbers are written low byte first.
import RetryTickets.Event.Record
import RetryTickets.Ticket.Registry

namespace RetryTickets

/-- A ticket, written. -/
def Ticket.toBytes (ticket : Ticket) : Bytes :=
  ticket.id.toBytes ++ ticket.sender.toBytes ++ ticket.target.toBytes ++
    Bytes.little 16 ticket.value.toNat ++ ticket.beneficiary.toBytes ++
    Bytes.little 8 ticket.calldata.length ++ ticket.calldata ++
    Bytes.ofWord64 ticket.timeout ++ Bytes.ofWord64 ticket.attempts

/-- The ticket at the front of the bytes, and what follows it. -/
def Ticket.read? (b : Bytes) : Option (Ticket × Bytes) := do
  let (id, b) ← FixedBytes.read? 32 b
  let (sender, b) ← FixedBytes.read? 20 b
  let (target, b) ← FixedBytes.read? 20 b
  let (value, b) ← Bytes.split? 16 b
  let (beneficiary, b) ← FixedBytes.read? 20 b
  let (length, b) ← Bytes.split? 8 b
  let (calldata, b) ← Bytes.split? (Bytes.ofLittle length) b
  let (timeout, b) ← Bytes.word64? b
  let (attempts, b) ← Bytes.word64? b
  return ({
    id := id
    sender := sender
    target := target
    value := BitVec.ofNat 128 (Bytes.ofLittle value)
    beneficiary := beneficiary
    calldata := calldata
    timeout := timeout
    attempts := attempts }, b)

namespace Entries

/-- A key and its ticket, written. -/
def entryBytes (entry : TicketId × Ticket) : Bytes := entry.1.toBytes ++ entry.2.toBytes

/-- Entries behind their number, written. -/
def toBytes (entries : Entries) : Bytes :=
  Bytes.little 8 entries.length ++ entries.flatMap entryBytes

/-- The first `count` entries. -/
def read? : (count : Nat) → Bytes → Option Entries
  | 0, _ => some []
  | count + 1, b => do
    let (key, b) ← FixedBytes.read? 32 b
    let (ticket, b) ← Ticket.read? b
    let later ← read? count b
    return (key, ticket) :: later

/-- Entries behind their number. What follows them is not looked at. -/
def ofBytes? (b : Bytes) : Option Entries := do
  let (front, rest) ← Bytes.split? 8 b
  read? (Bytes.ofLittle front) rest

end Entries

namespace Registry

/-- The registry of some entries; of two with the same key the later one counts. -/
def ofEntries (entries : Entries) : Registry :=
  entries.foldl (fun registry entry => registry.put entry.1 entry.2) empty

/-- A registry, written in the order of its keys. -/
def toBytes (registry : Registry) : Bytes := registry.entries.toBytes

/-- The registry that a snapshot holds. -/
def ofBytes? (b : Bytes) : Option Registry := (Entries.ofBytes? b).map ofEntries

end Registry

end RetryTickets
