-- A ticket: a call that waits to be made, until its time is over.
import RetryTickets.Gas
import RetryTickets.Identifier

namespace RetryTickets

/-- A call from `sender` to `target` that waits to be made. -/
structure Ticket where
  id : TicketId
  sender : Address
  target : Address
  value : BitVec 128
  /-- Who may give the ticket up. -/
  beneficiary : Address
  calldata : Bytes
  /-- The first point in time at which the ticket is dead. -/
  timeout : UInt64
  /-- How often the call was attempted. -/
  attempts : UInt64
  deriving DecidableEq

namespace Ticket

/-- How long a new or kept ticket lives, in seconds: a week. -/
def lifetime : UInt64 := 7 * 24 * 60 * 60

/-- The words that every ticket has, besides its calldata. -/
def fixedWords : UInt64 := 6

/-- A ticket lives before its timeout. -/
def isLive (now : UInt64) (ticket : Ticket) : Bool := now < ticket.timeout

/-- The storage a ticket takes: its fixed words, and its calldata behind its length. -/
def sizeBytes (ticket : Ticket) : UInt64 :=
  let words := Gas.wordsForBytes (UInt64.ofNat ticket.calldata.length)
  fixedWords * Gas.wordSize + (Gas.wordSize + Gas.wordSize * words)

/-- The ticket after one more attempt, if its counter can go on. -/
def nextAttempt? (ticket : Ticket) : Option Ticket :=
  (Gas.plus? ticket.attempts 1).map fun n => { ticket with attempts := n }

end Ticket

end RetryTickets
