-- Calls on a fresh meter. A call that is refused leaves the desk as it was, and
-- its answer tells what was burned before; for want of gas it loses all of it.
import RetryTickets.Proofs.Entitlement
import RetryTickets.Proofs.Prices

namespace RetryTickets

/-! ## Meters -/

namespace Meter

/-- What was paid before makes no difference to what a meter is drained to. -/
@[simp] theorem drain_spend (amount : UInt64) (meter : Meter) :
    (meter.spend amount).drain = meter.drain := by
  have hsum : meter.burned + amount + (meter.remaining - amount) =
      meter.burned + meter.remaining := by grind
  exact congrArg (Meter.mk 0) hsum

theorem spend_ofLimit (gas amount : UInt64) : (ofLimit gas).spend amount = ⟨gas - amount, amount⟩ := by
  simp [spend, ofLimit]

theorem drain_ofLimit (gas : UInt64) : (ofLimit gas).drain = ⟨0, gas⟩ := by
  simp [drain, ofLimit]

end Meter

theorem Registry.sizeBytes_of_live {registry : Registry} {id : TicketId} {now : UInt64}
    {ticket : Ticket} (h : registry.live? id now = some ticket) :
    TicketStore.sizeBytes registry id now = .ok ticket.sizeBytes := by
  simp [TicketStore.sizeBytes, h]

/-! ## Refusals -/

namespace Answer

/-- A call that was refused when this much of its gas was burned. -/
def refused (request : Call) (gas burned : UInt64) (error : Error) : Answer :=
  .called ⟨request.zeroOutput, burned, some error⟩ ⟨gas - burned, burned⟩

/-- A call that was refused for want of gas, and has lost all that it was given. -/
def drained (request : Call) (gas : UInt64) (shortfall : Shortfall) : Answer :=
  .called ⟨request.zeroOutput, gas, some (.outOfGas shortfall)⟩ ⟨0, gas⟩

end Answer

namespace Operation

variable {κ : Type} [EventSink κ] {desk : Desk κ} {request : Call} {context : CallContext}
  {gas : UInt64} {after : Scene Registry EventLog}

theorem performAt_of_refused {burned : UInt64} {error : Error}
    (h : request.act context (trial desk.registry (.ofLimit gas)) = .error error after)
    (hmeter : after.meter = (Meter.ofLimit gas).spend burned) :
    (call request context (.ofLimit gas)).performAt desk =
      (.refused request gas burned error, desk) := by
  rw [performAt_call_of_error h, hmeter, Meter.spend_ofLimit]
  simp [Answer.refused, Meter.ofLimit]

theorem performAt_of_drained {shortfall : Shortfall}
    (h : request.act context (trial desk.registry (.ofLimit gas)) =
      .error (.outOfGas shortfall) after)
    (hmeter : after.meter = (Meter.ofLimit gas).drain) :
    (call request context (.ofLimit gas)).performAt desk =
      (.drained request gas shortfall, desk) := by
  rw [performAt_call_of_error h, hmeter, Meter.drain_ofLimit]
  simp [Answer.drained, Meter.ofLimit]

theorem performAt_of_done {meter : Meter} {burned : UInt64} {output : Output}
    (h : request.act context (trial desk.registry meter) = .ok output after)
    (hmeter : after.meter = meter.spend burned) :
    (call request context meter).performAt desk =
      (.called ⟨output, burned, none⟩ (meter.spend burned),
        ⟨after.store, Dispatch.offered after.sink.events desk.sink⟩) := by
  have hused : (meter.spend burned).burned - meter.burned = burned := by
    have hspent : (meter.spend burned).burned = meter.burned + burned := rfl
    grind
  rw [performAt_call_of_ok h, hmeter, hused]

end Operation

end RetryTickets
