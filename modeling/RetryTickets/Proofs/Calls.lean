-- What a call that goes through has done, step by step: on any store, with
-- an event log as its sink, and then on a registry of tickets. A call answers
-- what the method behind it does.
import RetryTickets.Proofs.Actions
import RetryTickets.Proofs.Tickets

namespace RetryTickets.Controller

open RetryTickets.Action

/-! ## On any store -/

section AnyStore

variable {σ : Type} [TicketStore σ] {s t : Scene σ EventLog} {context : CallContext} {id : TicketId}

theorem cancel_ok (h : cancel context id s = .ok () t) :
    (∃ ticket, TicketStore.openTicket s.store id context.now = .ok (some ticket)) ∧
      TicketStore.beneficiary s.store id = .ok context.caller ∧
      (∃ refund, TicketStore.delete id s.store = (.ok refund, t.store)) ∧
      t.sink = s.sink.push (.canceled id) := by
  simp only [cancel, bind_ok_iff, ite_ok_iff, requireLive_ok_iff, ask_ok_iff, throw_ok_iff,
    change_ok_iff, tell_ok_iff, emit_ok_iff, false_and, exists_false, and_false, false_or,
    ne_eq, Decidable.not_not] at h
  obtain ⟨_, _, ⟨hopen, rfl⟩, _, _, ⟨hbeneficiary, rfl⟩, rfl, refund, _, ⟨store, hdelete, rfl⟩,
    _, _, rfl, _, rfl⟩ := h
  exact ⟨hopen, hbeneficiary, ⟨refund, hdelete⟩, rfl⟩

theorem beneficiary_ok {address : Address} (h : beneficiary context id s = .ok address t) :
    t = s := by
  simp only [beneficiary, bind_ok_iff, requireLive_ok_iff, ask_ok_iff] at h
  obtain ⟨_, _, ⟨_, rfl⟩, _, rfl⟩ := h
  rfl

theorem timeout_ok {time : UInt64} (h : timeout context id s = .ok time t) : t = s := by
  simp only [timeout, bind_ok_iff, requireLive_ok_iff, ask_ok_iff] at h
  obtain ⟨_, _, ⟨_, rfl⟩, _, rfl⟩ := h
  rfl

theorem keepalive_ok {time : UInt64} (h : keepalive context id s = .ok time t) :
    ∃ latest, Gas.plus? context.now Ticket.lifetime = some latest ∧
      TicketStore.extendExpiry id context.now latest Ticket.lifetime s.store = (.ok (), t.store) ∧
      (∃ ticket, TicketStore.openTicket t.store id context.now = .ok (some ticket)) ∧
      TicketStore.timeout t.store id = .ok time ∧
      t.sink = s.sink.push (.extended id time) := by
  simp only [keepalive, bind_ok_iff, ite_ok_iff, ask_ok_iff, throw_ok_iff, price_ok_iff,
    charge_ok_iff, false_and, exists_false, and_false, false_or] at h
  obtain ⟨size, _, ⟨_, rfl⟩, _, cost, _, ⟨_, rfl⟩, _, _, ⟨_, rfl⟩, h⟩ := h
  cases hlatest : Gas.plus? context.now Ticket.lifetime with
  | none => simp [hlatest] at h
  | some latest =>
    simp only [hlatest, bind_ok_iff, change_ok_iff, requireLive_ok_iff, ask_ok_iff, tell_ok_iff,
      emit_ok_iff, pure_ok_iff] at h
    obtain ⟨_, _, ⟨store, hextend, rfl⟩, _, _, ⟨hopen, rfl⟩, _, _, ⟨htimeout, rfl⟩, _, _, rfl,
      _, _, ⟨_, rfl⟩, rfl, rfl⟩ := h
    exact ⟨latest, rfl, hextend, hopen, htimeout, rfl⟩

theorem redeem_ok {retry : TicketId} (h : redeem context id s = .ok retry t) :
    ∃ sequence donated, (∃ ticket, TicketStore.openTicket s.store id context.now = .ok (some ticket)) ∧
      TicketStore.incrementAttempt id s.store = (.ok sequence, t.store) ∧
      retry = id.retry sequence ∧
      t.sink = s.sink.push (.scheduled id retry sequence donated context.caller) := by
  simp only [redeem, bind_ok_iff, ite_ok_iff, requireLive_ok_iff, ask_ok_iff, price_ok_iff,
    charge_ok_iff, change_ok_iff, gasLeft_ok_iff, emit_ok_iff, tell_ok_iff, pure_ok_iff] at h
  obtain ⟨size, _, ⟨_, rfl⟩, cost, _, ⟨_, rfl⟩, _, _, ⟨_, rfl⟩, _, _, ⟨hopen, rfl⟩,
    sequence, _, ⟨store, hcount, rfl⟩, donated, _, ⟨_, rfl⟩, _, _, ⟨_, rfl⟩, left, _, ⟨_, rfl⟩, h⟩ := h
  refine ⟨sequence, donated, hopen, ?_⟩
  rcases h with ⟨_, _, _, ⟨_, rfl⟩, _, _, ⟨_, rfl⟩, _, _, rfl, rfl, rfl⟩ |
    ⟨_, _, _, ⟨_, rfl⟩, _, _, rfl, rfl, rfl⟩
  · exact ⟨hcount, rfl, rfl⟩
  · exact ⟨hcount, rfl, rfl⟩

end AnyStore

/-! ## On a registry -/

section OnRegistry

variable {s t : Scene Registry EventLog} {context : CallContext} {id : TicketId}

/-- A ticket is given up by its beneficiary while it lives, and is gone then. -/
theorem canceled (h : cancel context id s = .ok () t) :
    ∃ ticket, s.store.live? id context.now = some ticket ∧ context.caller = ticket.beneficiary ∧
      t.store = s.store.erase id ∧ t.sink = s.sink.push (.canceled id) := by
  obtain ⟨⟨ticket, hopen⟩, hbeneficiary, ⟨refund, hdelete⟩, hsink⟩ := cancel_ok h
  have hlive := Registry.openTicket_eq_some_iff.1 hopen
  obtain ⟨_, hget, hcaller⟩ := Registry.beneficiary_ok_iff.1 hbeneficiary
  obtain ⟨_, _, hstore⟩ := Registry.delete_ok_iff.1 hdelete
  rw [(Registry.live?_eq_some_iff.1 hlive).1] at hget
  cases hget
  exact ⟨ticket, hlive, hcaller.symm, hstore, hsink⟩

/-- A ticket that is kept lives for a lifetime from now, and is otherwise as before. -/
theorem kept {time : UInt64} (h : keepalive context id s = .ok time t) :
    ∃ ticket, s.store.live? id context.now = some ticket ∧
      Gas.plus? context.now Ticket.lifetime = some time ∧
      t.store = s.store.put id { ticket with timeout := time } ∧
      t.sink = s.sink.push (.extended id time) := by
  obtain ⟨latest, hlatest, hextend, _, htimeout, hsink⟩ := keepalive_ok h
  obtain ⟨_, ticket, _, hlive, _, hstore⟩ := Registry.extendExpiry_ok_iff.1 hextend
  obtain ⟨found, hget, rfl⟩ := Registry.timeout_ok_iff.1 htimeout
  rw [hstore, Registry.get?_put] at hget
  simp only [if_true, Option.some.injEq] at hget
  subst hget
  exact ⟨ticket, hlive, hlatest, hstore, hsink⟩

/-- An attempt at a live ticket counts, and the ticket is otherwise as before. -/
theorem attempted {retry : TicketId} (h : redeem context id s = .ok retry t) :
    ∃ ticket next donated, s.store.live? id context.now = some ticket ∧
      ticket.nextAttempt? = some next ∧ retry = id.retry next.attempts ∧
      t.store = s.store.put id next ∧
      t.sink = s.sink.push (.scheduled id retry next.attempts donated context.caller) := by
  obtain ⟨sequence, donated, ⟨ticket, hopen⟩, hcount, hretry, hsink⟩ := redeem_ok h
  have hlive := Registry.openTicket_eq_some_iff.1 hopen
  obtain ⟨_, next, hget, hnext, rfl, hstore⟩ := Registry.incrementAttempt_ok_iff.1 hcount
  rw [(Registry.live?_eq_some_iff.1 hlive).1] at hget
  cases hget
  exact ⟨ticket, next, donated, hlive, hnext, hretry, hstore, hsink⟩

end OnRegistry

end RetryTickets.Controller

namespace RetryTickets

/-! ## A call by itself -/

/-- What the method behind a call answers when it is run by itself, and the scene it leaves. -/
inductive Call.Answers {σ κ : Type} [TicketStore σ] [EventSink κ] (context : CallContext)
    (scene : Scene σ κ) : Call → Output → Scene σ κ → Prop
  | cancel {id done} (h : Controller.cancel context id scene = .ok () done) :
      Answers context scene (.cancel id) .unit done
  | getBeneficiary {id address done}
      (h : Controller.beneficiary context id scene = .ok address done) :
      Answers context scene (.getBeneficiary id) (.address address) done
  | getLifetime : Answers context scene .getLifetime (.timestamp Ticket.lifetime) scene
  | getTimeout {id time done} (h : Controller.timeout context id scene = .ok time done) :
      Answers context scene (.getTimeout id) (.timestamp time) done
  | keepalive {id time done} (h : Controller.keepalive context id scene = .ok time done) :
      Answers context scene (.keepalive id) (.timestamp time) done
  | redeem {id retry done} (h : Controller.redeem context id scene = .ok retry done) :
      Answers context scene (.redeem id) (.ticketId retry) done

theorem Call.answers_of_act {σ κ : Type} [TicketStore σ] [EventSink κ] {context : CallContext}
    {call : Call} {scene done : Scene σ κ} {output : Output}
    (h : call.act context scene = .ok output done) :
    call.Answers context scene output done := by
  cases call with
  | cancel id =>
    simp only [act, Action.bind_ok_iff, Action.pure_ok_iff] at h
    obtain ⟨_, _, h, rfl, rfl⟩ := h
    exact .cancel h
  | getBeneficiary id =>
    simp only [act, Action.bind_ok_iff, Action.pure_ok_iff] at h
    obtain ⟨address, _, h, rfl, rfl⟩ := h
    exact .getBeneficiary h
  | getLifetime =>
    simp only [act, Action.pure_ok_iff] at h
    obtain ⟨rfl, rfl⟩ := h
    exact .getLifetime
  | getTimeout id =>
    simp only [act, Action.bind_ok_iff, Action.pure_ok_iff] at h
    obtain ⟨time, _, h, rfl, rfl⟩ := h
    exact .getTimeout h
  | keepalive id =>
    simp only [act, Action.bind_ok_iff, Action.pure_ok_iff] at h
    obtain ⟨time, _, h, rfl, rfl⟩ := h
    exact .keepalive h
  | redeem id =>
    simp only [act, Action.bind_ok_iff, Action.pure_ok_iff] at h
    obtain ⟨retry, _, h, rfl, rfl⟩ := h
    exact .redeem h

end RetryTickets
