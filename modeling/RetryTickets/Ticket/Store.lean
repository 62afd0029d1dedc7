-- What a place for tickets can do. Questions leave it as it is; an operation
-- answers and gives the place as it is afterwards, also when it refuses.
import RetryTickets.Error
import RetryTickets.Ticket

namespace RetryTickets

/-- A place for tickets. Nothing is promised about how its answers fit together. -/
class TicketStore (σ : Type) where
  /-- The ticket of an id, if it lives. -/
  openTicket : σ → TicketId → (now : UInt64) → Except Error (Option Ticket)
  /-- The storage that a live ticket takes, and nothing for any other. -/
  sizeBytes : σ → TicketId → (now : UInt64) → Except Error UInt64
  /-- Who may give a ticket up. -/
  beneficiary : σ → TicketId → Except Error Address
  /-- When a ticket ends. -/
  timeout : σ → TicketId → Except Error UInt64
  /-- Removes a ticket and says what is refunded. -/
  delete : TicketId → σ → Except Error UInt64 × σ
  /-- Moves the end of a live ticket, to `lifetime` from now at the latest. -/
  extendExpiry : TicketId → (now newTimeout lifetime : UInt64) → σ → Except Error Unit × σ
  /-- Counts an attempt and gives its number. -/
  incrementAttempt : TicketId → σ → Except Error UInt64 × σ

end RetryTickets
