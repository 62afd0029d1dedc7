-- What a cancel comes to. The ticket has to live, then the caller has to be its
-- beneficiary, and then its event has to be paid for: the first of these that is
-- not so decides the outcome. The ticket is taken out before the event is paid
-- for, and is back if it was not.
import RetryTickets.Proofs.Expiry
import RetryTickets.Proofs.Budgets

namespace RetryTickets

theorem EventKind.gasCost_canceled : EventKind.canceled.gasCost = 1125 := by decide

namespace Controller

open RetryTickets.Action

variable {s : Scene Registry EventLog} {context : CallContext} {id : TicketId} {ticket : Ticket}

/-- A ticket that lives has its beneficiary compared with the caller. -/
theorem cancel_of_live (hlive : s.store.live? id context.now = some ticket) :
    cancel context id s = (do
      if context.caller ≠ ticket.beneficiary then
        throw (.unauthorized context.caller ticket.beneficiary)
      let _ ← change (TicketStore.delete id)
      tell (.canceled id context.caller)
      emit (.canceled id) : Action Registry EventLog Unit) s := by
  have hget := (Registry.live?_eq_some_iff.1 hlive).1
  have hask : ask (fun store => TicketStore.beneficiary store id) s = .ok ticket.beneficiary s :=
    ask_ok_iff.2 ⟨Registry.beneficiary_ok_iff.2 ⟨ticket, hget, rfl⟩, rfl⟩
  unfold cancel
  rw [bind_of_ok (Dispatch.requireLive_of_live hlive), bind_of_ok hask]

theorem cancel_of_stranger (hlive : s.store.live? id context.now = some ticket)
    (hcaller : context.caller ≠ ticket.beneficiary) :
    cancel context id s = .error (.unauthorized context.caller ticket.beneficiary) s := by
  rw [cancel_of_live hlive, if_pos hcaller]
  exact bind_of_error rfl

/-- The scene in which a ticket is given up, before that is logged. -/
def givenUp (context : CallContext) (id : TicketId) (s : Scene Registry EventLog) :
    Scene Registry EventLog :=
  { s with
    store := s.store.erase id
    notices := s.notices ++ [.canceled id context.caller] }

theorem cancel_of_entitled (hlive : s.store.live? id context.now = some ticket)
    (hcaller : context.caller = ticket.beneficiary) :
    cancel context id s = emit (.canceled id) (givenUp context id s) := by
  have hget := (Registry.live?_eq_some_iff.1 hlive).1
  have hdelete : change (TicketStore.delete id) s = .ok 0 { s with store := s.store.erase id } :=
    change_ok_iff.2 ⟨_, Registry.delete_ok_iff.2 ⟨rfl, ⟨ticket, hget⟩, rfl⟩, rfl⟩
  rw [cancel_of_live hlive, if_neg (not_not.2 hcaller)]
  refine (bind_of_ok hdelete).trans ?_
  exact bind_of_ok rfl

end Controller

theorem Call.act_cancel_ok {σ κ : Type} [TicketStore σ] [EventSink κ] {context : CallContext}
    {id : TicketId} {s t : Scene σ κ} (h : Controller.cancel context id s = .ok () t) :
    (cancel id).act context s = .ok .unit t :=
  Action.bind_of_ok h

/-! ## At a desk, on a fresh meter -/

namespace Operation

variable {κ : Type} [EventSink κ] {desk : Desk κ} {id : TicketId} {context : CallContext}
  {gas : UInt64} {ticket : Ticket}

theorem performAt_cancel_of_dead (hlive : desk.registry.live? id context.now = none) :
    (call (.cancel id) context (.ofLimit gas)).performAt desk =
      (.refused (.cancel id) gas 0 .notFound, desk) := by
  let scene := trial desk.registry (.ofLimit gas)
  have hstop : (Call.cancel id).act context scene = .error .notFound scene :=
    Call.act_of_dead rfl hlive
  exact performAt_of_refused hstop (Meter.spend_zero _).symm

theorem performAt_cancel_of_stranger (hlive : desk.registry.live? id context.now = some ticket)
    (hcaller : context.caller ≠ ticket.beneficiary) :
    (call (.cancel id) context (.ofLimit gas)).performAt desk =
      (.refused (.cancel id) gas 0 (.unauthorized context.caller ticket.beneficiary), desk) := by
  have hstop := Controller.cancel_of_stranger (s := trial desk.registry (.ofLimit gas)) hlive hcaller
  exact performAt_of_refused (Action.bind_of_error hstop) (Meter.spend_zero _).symm

/-- The ticket is there again, for the event behind its end was not paid for. -/
theorem performAt_cancel_of_unpaid (hlive : desk.registry.live? id context.now = some ticket)
    (hcaller : context.caller = ticket.beneficiary) (hshort : gas < 1125) :
    (call (.cancel id) context (.ofLimit gas)).performAt desk =
      (.drained (.cancel id) gas ⟨1125, gas⟩, desk) := by
  let scene := trial desk.registry (.ofLimit gas)
  have hleft : (Controller.givenUp context id scene).meter.remaining < 1125 := hshort
  have hstop := (Controller.cancel_of_entitled hlive hcaller).trans
    (Action.emit_of_lt EventKind.gasCost_canceled hleft)
  exact performAt_of_drained (Action.bind_of_error hstop) rfl

theorem performAt_cancel_of_paid (hlive : desk.registry.live? id context.now = some ticket)
    (hcaller : context.caller = ticket.beneficiary) (henough : 1125 ≤ gas) :
    (call (.cancel id) context (.ofLimit gas)).performAt desk =
      (.called ⟨.unit, 1125, none⟩ ⟨gas - 1125, 1125⟩,
        ⟨desk.registry.erase id, Dispatch.offered [.canceled id] desk.sink⟩) := by
  let scene := trial desk.registry (.ofLimit gas)
  have hleft : 1125 ≤ (Controller.givenUp context id scene).meter.remaining := henough
  have hdone := (Controller.cancel_of_entitled hlive hcaller).trans
    (Action.emit_of_le EventKind.gasCost_canceled hleft)
  rw [← Meter.spend_ofLimit]
  exact performAt_of_done (Call.act_cancel_ok hdone) rfl

end Operation

/-! ## The law -/

/-- A cancel goes through just when there is a ticket that lives, its beneficiary asks for it and
its event can be paid for. Then that ticket is gone and every other one is as it was. If not, it is
told the first of the three that is not so, and only a price that was not there costs anything. -/
theorem a_live_ticket_is_given_up_by_its_beneficiary {κ : Type} [EventSink κ] (desk : Desk κ)
    (id : TicketId) (context : CallContext) (gas : UInt64) :
    let request := Call.cancel id
    let result := (Operation.call request context (.ofLimit gas)).performAt desk
    (result.1.outcome = .ok () ↔ ∃ ticket, desk.registry.get? id = some ticket ∧
      context.now < ticket.timeout ∧ context.caller = ticket.beneficiary ∧ 1125 ≤ gas) ∧
    (result.1.outcome = .ok () → ∀ key,
      result.2.registry.get? key = if key = id then none else desk.registry.get? key) ∧
    result =
      match desk.registry.live? id context.now with
      | none => (.refused request gas 0 .notFound, desk)
      | some ticket =>
        if context.caller ≠ ticket.beneficiary then
          (.refused request gas 0 (.unauthorized context.caller ticket.beneficiary), desk)
        else if gas < 1125 then (.drained request gas ⟨1125, gas⟩, desk)
        else
          (.called ⟨.unit, 1125, none⟩ ⟨gas - 1125, 1125⟩,
            ⟨desk.registry.erase id, Dispatch.offered [.canceled id] desk.sink⟩) := by
  intro request result
  have hentitled : (∃ ticket, desk.registry.get? id = some ticket ∧ context.now < ticket.timeout ∧
      context.caller = ticket.beneficiary ∧ 1125 ≤ gas) ↔
      ∃ ticket, desk.registry.live? id context.now = some ticket ∧
        context.caller = ticket.beneficiary ∧ 1125 ≤ gas := by
    simp only [Registry.live?_eq_some_iff, and_assoc]
  rw [hentitled]
  cases hlive : desk.registry.live? id context.now with
  | none =>
    have hresult : result = _ := Operation.performAt_cancel_of_dead hlive
    rw [hresult]
    exact ⟨iff_of_false nofun nofun, nofun, rfl⟩
  | some ticket =>
    simp only [Option.some.injEq, exists_eq_left']
    by_cases hcaller : context.caller = ticket.beneficiary
    · rw [if_neg (not_not.2 hcaller)]
      by_cases henough : 1125 ≤ gas
      · have hresult : result = _ := Operation.performAt_cancel_of_paid hlive hcaller henough
        rw [hresult, if_neg (UInt64.not_lt.2 henough)]
        exact ⟨iff_of_true rfl ⟨hcaller, henough⟩,
          fun _ key => Registry.get?_erase desk.registry id key, rfl⟩
      · have hshort := UInt64.not_le.1 henough
        have hresult : result = _ := Operation.performAt_cancel_of_unpaid hlive hcaller hshort
        rw [hresult, if_pos hshort]
        exact ⟨iff_of_false nofun fun h => henough h.2, nofun, rfl⟩
    · have hresult : result = _ := Operation.performAt_cancel_of_stranger hlive hcaller
      rw [hresult, if_pos hcaller]
      exact ⟨iff_of_false nofun fun h => hcaller h.1, nofun, rfl⟩

end RetryTickets
