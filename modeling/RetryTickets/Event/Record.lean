-- Events as they stand in a log: the length of the payload, then the number of
-- the kind, the ticket and what else there is to the event. Numbers are written
-- low byte first.
import RetryTickets.Error
import RetryTickets.Event

namespace RetryTickets

/-- A number of 64 bits at the front of the bytes, and what follows it. -/
def Bytes.word64? (b : Bytes) : Option (UInt64 × Bytes) :=
  (Bytes.split? 8 b).map fun (front, rest) => (UInt64.ofNat (Bytes.ofLittle front), rest)

/-- A number of 64 bits, written. -/
def Bytes.ofWord64 (n : UInt64) : Bytes := Bytes.little 8 n.toNat

/-- The number of a kind. -/
def EventKind.number : EventKind → Nat
  | created => 0
  | extended => 1
  | scheduled => 2
  | redeemed => 3
  | canceled => 4

namespace Event

/-- What there is to an event besides its kind and its ticket. -/
def details : Event → Bytes
  | created _ => []
  | extended _ timeout => Bytes.ofWord64 timeout
  | scheduled _ retry sequence donatedGas donor =>
    retry.toBytes ++ Bytes.ofWord64 sequence ++ Bytes.ofWord64 donatedGas ++ donor.toBytes
  | redeemed _ => []
  | canceled _ => []

/-- An event, written. -/
def payload (event : Event) : Bytes :=
  Bytes.little 4 event.kind.number ++ event.ticket.toBytes ++ event.details

/-- An event as it stands in a log. -/
def record (event : Event) : Bytes :=
  Bytes.little 8 event.payload.length ++ event.payload

/-- An event of a kind with its ticket and details, if there are bytes enough. What follows
the details is not looked at. -/
def ofFields? (kind : EventKind) (b : Bytes) : Option Event := do
  let (ticket, b) ← FixedBytes.read? 32 b
  match kind with
  | .created => return created ticket
  | .extended =>
    let (timeout, _) ← Bytes.word64? b
    return extended ticket timeout
  | .scheduled =>
    let (retry, b) ← FixedBytes.read? 32 b
    let (sequence, b) ← Bytes.word64? b
    let (donatedGas, b) ← Bytes.word64? b
    let (donor, _) ← FixedBytes.read? 20 b
    return scheduled ticket retry sequence donatedGas donor
  | .redeemed => return redeemed ticket
  | .canceled => return canceled ticket

/-- The event that a payload begins with. -/
def ofPayload (b : Bytes) : Except DecodeFault Event :=
  match Bytes.split? 4 b with
  | none => .error .endOfData
  | some (front, rest) =>
    let number := Bytes.ofLittle front
    match EventKind.all[number]? with
    | none => .error (.unknownKind number)
    | some kind =>
      match ofFields? kind rest with
      | none => .error .endOfData
      | some event => .ok event

/-- Payloads of this length or more are longer than any memory. Memory is taken to be there for
every smaller length that a record declares; a machine that has too little stops the program,
and that is left out. -/
def endlessLength : Nat := 0x8000000000000000

/-- The events of a log. A length that is cut short is no event; a payload that is cut
short is a fault. -/
def ofRecords (b : Bytes) : Except StateFault (List Event) :=
  match _hlength : Bytes.split? 8 b with
  | none => .ok []
  | some (front, rest) =>
    let length := Bytes.ofLittle front
    if endlessLength ≤ length then .error (.endlessEvent length)
    else match _hpayload : Bytes.split? length rest with
      | none => .error .tornEvent
      | some (payload, later) =>
        match ofPayload payload with
        | .error fault => .error (.badEvent fault)
        | .ok event =>
          match ofRecords later with
          | .error fault => .error fault
          | .ok events => .ok (event :: events)
termination_by b.length
decreasing_by
  obtain ⟨hf, hb⟩ := Bytes.split?_eq_some_iff.1 _hlength
  obtain ⟨_, hr⟩ := Bytes.split?_eq_some_iff.1 _hpayload
  have h1 := congrArg List.length hb
  have h2 := congrArg List.length hr
  simp only [List.length_append] at h1 h2
  omega

end Event

end RetryTickets
