-- A ticket that has timed out stays where it is. Whatever comes for it is
-- told that it is not there and pays nothing, nobody can make another of its
-- name, and it is the same after any run that comes too late for it.
import RetryTickets.Proofs.Entitlement

namespace RetryTickets

/-! ## Calls for what does not live -/

@[simp] theorem Meter.spend_zero (meter : Meter) : meter.spend 0 = meter := by
  simp [Meter.spend]

theorem Registry.sizeBytes_of_dead {registry : Registry} {id : TicketId} {now : UInt64}
    (h : registry.live? id now = none) : TicketStore.sizeBytes registry id now = .ok 0 := by
  simp [TicketStore.sizeBytes, h]

namespace Call

open RetryTickets.Action Dispatch

variable {κ : Type} [EventSink κ] {s : Scene Registry κ} {context : CallContext} {id : TicketId}

/-- No call gets further than the ticket it is for. A keepalive stops at its size and a redeem
pays for nothing read before it stops. -/
theorem act_of_dead {call : Call} (hcall : call.ticket? = some id)
    (h : s.store.live? id context.now = none) : call.act context s = .error .notFound s := by
  have hstop := requireLive_of_dead h
  have hsize : ask (fun store => TicketStore.sizeBytes store id context.now) s = .ok 0 s :=
    ask_ok_iff.2 ⟨Registry.sizeBytes_of_dead h, rfl⟩
  cases call with
  | cancel =>
    cases hcall
    exact bind_of_error (bind_of_error hstop)
  | getBeneficiary =>
    cases hcall
    exact bind_of_error (bind_of_error hstop)
  | getLifetime => cases hcall
  | getTimeout =>
    cases hcall
    exact bind_of_error (bind_of_error hstop)
  | keepalive =>
    cases hcall
    exact bind_of_error (bind_of_ok hsize)
  | redeem =>
    cases hcall
    have hprice : price (Gas.redeemRead 0) s = .ok 0 s := price_ok_iff.2 ⟨rfl, rfl⟩
    have hcharge : charge 0 s = .ok () s :=
      charge_ok_iff.2 ⟨UInt64.zero_le, by rw [Meter.spend_zero]⟩
    apply bind_of_error
    unfold Controller.redeem
    rw [bind_of_ok hsize, bind_of_ok hprice, bind_of_ok hcharge]
    exact bind_of_error hstop

end Call

/-! ## Operations that come too late -/

namespace Operation

/-- When an operation comes, as far as that plays a part in it. -/
def now? : Operation → Option UInt64
  | .create _ => none
  | .call _ context _ => some context.now
  | .complete _ now => some now

/-- Whether an operation is too late for what is found under an id: the ticket has timed out when
it comes for it, or nothing is found and nothing is made. -/
def TooLate (id : TicketId) (found : Option Ticket) (operation : Operation) : Prop :=
  operation.ticket? = some id →
    match found with
    | some ticket => ∀ now, operation.now? = some now → ticket.timeout ≤ now
    | none => ∀ ticket, operation ≠ .create ticket

/-- What an operation is answered when what it is about cannot be had. -/
def refusal : Operation → Answer
  | .create ticket => .made (.error (.store (.alreadyExists ticket.id)))
  | .call request _ meter => .called ⟨request.zeroOutput, 0, some .notFound⟩ meter
  | .complete _ _ => .ended (.error .notFound)

variable {operation : Operation} {id : TicketId}

/-- Nothing lives under an id when an operation comes too late. -/
theorem TooLate.dead {registry : Registry} {now : UInt64}
    (h : operation.TooLate id (registry.get? id)) (habout : operation.ticket? = some id)
    (hnow : operation.now? = some now) : registry.live? id now = none := by
  by_contra hlive
  obtain ⟨ticket, hticket⟩ := Option.ne_none_iff_exists'.1 hlive
  obtain ⟨hget, hlives⟩ := Registry.live?_eq_some_iff.1 hticket
  have hlate := h habout
  rw [hget] at hlate
  exact UInt64.not_lt.2 (hlate now hnow) hlives

variable {κ : Type} [EventSink κ] {desk : Desk κ}

/-- Who comes too late is refused, and nothing has happened. -/
theorem performAt_of_tooLate (h : operation.TooLate id (desk.registry.get? id))
    (habout : operation.ticket? = some id) :
    operation.performAt desk = (operation.refusal, desk) := by
  cases operation with
  | create ticket =>
    cases habout
    cases hget : desk.registry.get? ticket.id with
    | none =>
      rw [hget] at h
      exact absurd rfl (h rfl ticket)
    | some found => exact performAt_create_of_taken hget
  | call request context meter =>
    have hact := Call.act_of_dead (s := trial desk.registry meter) habout (h.dead habout rfl)
    rw [performAt_call_of_error hact]
    simp [refusal, trial]
  | complete key now =>
    cases habout
    exact performAt_complete_of_dead (h.dead rfl rfl)

theorem get?_performAt_of_tooLate (h : operation.TooLate id (desk.registry.get? id)) :
    (operation.performAt desk).2.registry.get? id = desk.registry.get? id := by
  by_cases habout : operation.ticket? = some id
  · rw [performAt_of_tooLate h habout]
  · obtain ⟨_, fate⟩ := operation.performAt_fate desk id
    exact (fate.of_other habout).1

end Operation

/-- A ticket is as it was after a run that comes too late for it. -/
theorem get?_after_of_tooLate {κ : Type} [EventSink κ] {desk : Desk κ} {id : TicketId}
    {operations : List Operation}
    (h : ∀ operation ∈ operations, operation.TooLate id (desk.registry.get? id)) :
    (desk.after operations).registry.get? id = desk.registry.get? id := by
  induction operations using List.reverseRecOn with
  | nil => rfl
  | append_singleton operations operation ih =>
    have hsame := ih fun earlier hearlier => h earlier (List.mem_append_left _ hearlier)
    have hlate := h operation (List.mem_append_right _ List.mem_cons_self)
    rw [Desk.after_append_singleton, Operation.get?_performAt_of_tooLate (hsame ▸ hlate), hsame]

/-! ## The law -/

/-- In a run that comes too late for what is found under an id, everything that is about it is
refused, at no cost and with nothing told, and what was found there is there at the end. -/
theorem what_has_timed_out_is_left_alone {κ : Type} [EventSink κ] (desk : Desk κ) (id : TicketId)
    (operations : List Operation)
    (h : ∀ operation ∈ operations, operation.TooLate id (desk.registry.get? id)) :
    (desk.after operations).registry.get? id = desk.registry.get? id ∧
      ∀ before operation later, operations = before ++ operation :: later →
        operation.ticket? = some id →
          operation.performAt (desk.after before) = (operation.refusal, desk.after before) := by
  refine ⟨get?_after_of_tooLate h, ?_⟩
  rintro before operation later rfl habout
  have hsame := get?_after_of_tooLate fun earlier hearlier =>
    h earlier (List.mem_append_left _ hearlier)
  have hlate := h operation (List.mem_append_right _ List.mem_cons_self)
  exact Operation.performAt_of_tooLate (hsame ▸ hlate) habout

/-- An attempt without gas when the ticket has just timed out, another ticket of its name, and an
end at the last of all times. -/
theorem a_timed_out_ticket_is_left_alone :
    let desk := Desk.plain EventLog.empty
    let attempt := Operation.call (.redeem .zero) ⟨.zero, 100⟩ (.ofLimit 0)
    let making := Operation.create { Ticket.plain with timeout := 200 }
    let ending := Operation.complete .zero 18446744073709551615
    (∀ operation ∈ [attempt, making, ending],
        operation.TooLate .zero (desk.registry.get? .zero)) ∧
      (desk.after [attempt, making, ending]).registry.get? .zero = some .plain ∧
      attempt.performAt desk = (.called ⟨.ticketId .zero, 0, some .notFound⟩ (.ofLimit 0), desk) ∧
      making.performAt (desk.after [attempt]) =
        (.made (.error (.store (.alreadyExists .zero))), desk.after [attempt]) ∧
      ending.performAt (desk.after [attempt, making]) =
        (.ended (.error .notFound), desk.after [attempt, making]) := by
  intro desk attempt making ending
  have hlate : ∀ operation ∈ [attempt, making, ending],
      operation.TooLate .zero (desk.registry.get? .zero) := by
    rintro operation (_ | ⟨_, _ | ⟨_, _ | ⟨_, ⟨⟩⟩⟩⟩) - now ⟨⟩
    · exact UInt64.le_refl _
    · exact (by decide : (100 : UInt64) ≤ 18446744073709551615)
  obtain ⟨hsame, hrefused⟩ := what_has_timed_out_is_left_alone desk .zero _ hlate
  exact ⟨hlate, hsame, hrefused [] attempt _ rfl rfl, hrefused [attempt] making _ rfl rfl,
    hrefused [attempt, making] ending _ rfl rfl⟩

end RetryTickets
