-- The calls that can be made on tickets, and what they answer.
import RetryTickets.Ticket

namespace RetryTickets

/-- A request about a ticket, or about all tickets alike. -/
inductive Call where
  /-- Give the ticket up. -/
  | cancel (ticket : TicketId)
  /-- Who may give the ticket up. -/
  | getBeneficiary (ticket : TicketId)
  /-- How long tickets live. -/
  | getLifetime
  /-- When the ticket ends. -/
  | getTimeout (ticket : TicketId)
  /-- Let the ticket live for another lifetime from now. -/
  | keepalive (ticket : TicketId)
  /-- Attempt the ticket's call. -/
  | redeem (ticket : TicketId)
  deriving DecidableEq

/-- Who calls, and when. -/
structure CallContext where
  caller : Address
  now : UInt64
  deriving DecidableEq

/-- The answer to a call. -/
inductive Output where
  | unit
  | address (address : Address)
  | timestamp (time : UInt64)
  | ticketId (id : TicketId)
  deriving DecidableEq

namespace Output

/-- The name of the kind of answer. -/
def kind : Output → String
  | unit => "Unit"
  | address _ => "Address"
  | timestamp _ => "Timestamp"
  | ticketId _ => "TicketId"

/-- The answer in words, if it has any. -/
def text : Output → String
  | unit => ""
  | address a => a.text
  | timestamp t => toString t
  | ticketId id => id.text

/-- The bytes of the answer, without the zeros in front. -/
def payload : Output → Bytes
  | unit => []
  | address a => a.toBytes
  | timestamp t => Bytes.big 8 t.toNat
  | ticketId id => id.toBytes

/-- An answer never takes more than a word. -/
theorem length_payload_le (output : Output) : output.payload.length ≤ 32 := by
  cases output with
  | unit => simp [payload]
  | address a => simp [payload, a.length_eq]
  | timestamp t => simp [payload]
  | ticketId id => simp [payload, id.length_eq]

/-- The answer as one word, with zeros in front. -/
def word (output : Output) : FixedBytes 32 :=
  ⟨List.replicate (32 - output.payload.length) 0 ++ output.payload, by
    have := output.length_payload_le
    simp
    omega⟩

end Output

namespace Call

/-- The ticket a call is about. -/
def ticket? : Call → Option TicketId
  | cancel id => some id
  | getBeneficiary id => some id
  | getLifetime => none
  | getTimeout id => some id
  | keepalive id => some id
  | redeem id => some id

/-- The name of a call. -/
def name : Call → String
  | cancel _ => "cancel"
  | getBeneficiary _ => "getBeneficiary"
  | getLifetime => "getLifetime"
  | getTimeout _ => "getTimeout"
  | keepalive _ => "keepalive"
  | redeem _ => "redeem"

/-- A call as it stands in a notice. -/
def text (call : Call) : String :=
  call.name ++ "(" ++ (call.ticket?.map FixedBytes.text).getD "" ++ ")"

/-- Whether a call only asks. -/
def isReadOnly : Call → Bool
  | getBeneficiary _ => true
  | getLifetime => true
  | getTimeout _ => true
  | _ => false

/-- What a call answers when it fails. -/
def zeroOutput : Call → Output
  | cancel _ => .unit
  | getBeneficiary _ => .address .zero
  | getLifetime => .timestamp 0
  | getTimeout _ => .timestamp 0
  | keepalive _ => .timestamp 0
  | redeem _ => .ticketId .zero

end Call

end RetryTickets
