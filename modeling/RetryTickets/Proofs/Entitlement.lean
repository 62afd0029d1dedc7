-- Who may change a ticket. Its beneficiary gives it up and its end takes it
-- away, both only while it lives. A keepalive moves its timeout, a redeem counts
-- an attempt, and nothing else about it ever changes. No sink has a part in
-- this, but an end whose event the sink refuses is answered as if it had not
-- come.
import Mathlib.Data.List.Induction
import RetryTickets.Bench.Switches
import RetryTickets.Proofs.Atomicity
import RetryTickets.Proofs.Fates

namespace RetryTickets

/-! ## Operations with any sink -/

/-- The tickets, and the sink that hears what happens to them. -/
structure Desk (κ : Type) where
  registry : Registry
  sink : κ

/-- Plays a request that needs no gas at a desk. -/
def Desk.request {κ α : Type} (action : Action Registry κ α) (desk : Desk κ) :
    Except Error α × Desk κ :=
  match action ⟨desk.registry, desk.sink, .ofLimit 0, []⟩ with
  | .ok a scene => (.ok a, ⟨scene.store, scene.sink⟩)
  | .error error scene => (.error error, ⟨scene.store, scene.sink⟩)

namespace Dispatch

open RetryTickets.Action

variable {κ : Type} [EventSink κ] {s : Scene Registry κ}

/-- A new ticket is there when the sink hears of it. -/
theorem createTicket_eq_offer {ticket : Ticket} (h : s.store.get? ticket.id = none) :
    createTicket ticket s = (do offer (.created ticket.id); return ticket.id : Action Registry κ _)
      { s with
        store := s.store.put ticket.id ticket
        notices := s.notices ++ [.created ticket.id] } := by
  have hinsert : change (Registry.insert ticket) s =
      .ok () { s with store := s.store.put ticket.id ticket } :=
    change_ok_iff.2 ⟨_, Registry.insert_ok_iff.2 ⟨h, rfl⟩, rfl⟩
  unfold createTicket
  rw [bind_of_ok hinsert]
  exact bind_of_ok rfl

/-- A ticket is gone when the sink hears of its end. -/
theorem completeRedeem_eq_offer {id : TicketId} {now : UInt64} {ticket : Ticket}
    (h : s.store.live? id now = some ticket) :
    completeRedeem id now s = offer (.redeemed id) { s with
      store := s.store.erase id
      notices := s.notices ++ [.redeemed id] } := by
  have hget := (Registry.live?_eq_some_iff.1 h).1
  have hdelete : change (TicketStore.delete id) s = .ok 0 { s with store := s.store.erase id } :=
    change_ok_iff.2 ⟨_, Registry.delete_ok_iff.2 ⟨rfl, ⟨ticket, hget⟩, rfl⟩, rfl⟩
  unfold completeRedeem
  rw [bind_of_ok (requireLive_of_live h), bind_of_ok hdelete]
  exact bind_of_ok rfl

end Dispatch

namespace Operation

variable {κ : Type} [EventSink κ]

/-- Performs an operation at a desk. -/
def performAt (desk : Desk κ) : Operation → Answer × Desk κ
  | create ticket =>
    let (result, desk) := desk.request (Dispatch.createTicket ticket)
    (.made result, desk)
  | call request context meter =>
    let (receipt, scene) :=
      Dispatch.execute request context ⟨desk.registry, desk.sink, meter, []⟩
    (.called receipt scene.meter, ⟨scene.store, scene.sink⟩)
  | complete id now =>
    let (result, desk) := desk.request (Dispatch.completeRedeem id now)
    (.ended result, desk)

variable {desk : Desk κ}

theorem performAt_create_of_new {ticket : Ticket} (h : desk.registry.get? ticket.id = none) :
    (create ticket).performAt desk =
      let (taken, sink) := EventSink.emit (.created ticket.id) desk.sink
      (.made (taken.map fun _ => ticket.id), ⟨desk.registry.put ticket.id ticket, sink⟩) := by
  have hcreate := Dispatch.createTicket_eq_offer
    (s := ⟨desk.registry, desk.sink, .ofLimit 0, []⟩) h
  simp only [performAt, Desk.request, hcreate, bind, EStateM.bind, Action.offer]
  rcases EventSink.emit (.created ticket.id) desk.sink with ⟨error | u, sink⟩ <;> rfl

theorem performAt_create_of_taken {ticket found : Ticket}
    (h : desk.registry.get? ticket.id = some found) :
    (create ticket).performAt desk =
      (.made (.error (.store (.alreadyExists ticket.id))), desk) := by
  have hcreate := Dispatch.createTicket_of_taken
    (s := ⟨desk.registry, desk.sink, .ofLimit 0, []⟩) h
  simp only [performAt, Desk.request, hcreate]

theorem performAt_complete_of_live {id : TicketId} {now : UInt64} {ticket : Ticket}
    (h : desk.registry.live? id now = some ticket) :
    (complete id now).performAt desk =
      let (taken, sink) := EventSink.emit (.redeemed id) desk.sink
      (.ended taken, ⟨desk.registry.erase id, sink⟩) := by
  have hcomplete := Dispatch.completeRedeem_eq_offer
    (s := ⟨desk.registry, desk.sink, .ofLimit 0, []⟩) h
  simp only [performAt, Desk.request, hcomplete, Action.offer]
  rcases EventSink.emit (.redeemed id) desk.sink with ⟨error | u, sink⟩ <;> rfl

theorem performAt_complete_of_dead {id : TicketId} {now : UInt64}
    (h : desk.registry.live? id now = none) :
    (complete id now).performAt desk = (.ended (.error .notFound), desk) := by
  have hcomplete := Dispatch.completeRedeem_of_dead
    (s := ⟨desk.registry, desk.sink, .ofLimit 0, []⟩) h
  simp only [performAt, Desk.request, hcomplete]

theorem performAt_call_of_ok {request : Call} {context : CallContext} {meter : Meter}
    {output : Output} {done : Scene Registry EventLog}
    (h : request.act context (trial desk.registry meter) = .ok output done) :
    (call request context meter).performAt desk =
      (.called ⟨output, done.meter.burned - meter.burned, none⟩ done.meter,
        ⟨done.store, Dispatch.offered done.sink.events desk.sink⟩) := by
  obtain ⟨told, hexecute⟩ := Dispatch.execute_of_ok h desk.sink []
  simp only [performAt, hexecute]

theorem performAt_call_of_error {request : Call} {context : CallContext} {meter : Meter}
    {error : Error} {stopped : Scene Registry EventLog}
    (h : request.act context (trial desk.registry meter) = .error error stopped) :
    (call request context meter).performAt desk =
      (.called ⟨request.zeroOutput, stopped.meter.burned - meter.burned, some error⟩ stopped.meter,
        desk) := by
  obtain ⟨told, hexecute⟩ := Dispatch.execute_of_error h desk.sink []
  simp only [performAt, hexecute]

/-- No sink has a part in what becomes of the tickets. -/
theorem registry_performAt (operation : Operation) (desk : Desk κ) :
    (operation.performAt desk).2.registry =
      (operation.perform ⟨desk.registry, []⟩).2.registry := by
  cases operation with
  | create ticket =>
    cases hget : desk.registry.get? ticket.id with
    | none => rw [performAt_create_of_new hget, perform_create_of_new hget]
    | some found => rw [performAt_create_of_taken hget, perform_create_of_taken hget]
  | call request context meter =>
    cases hact : request.act context (trial desk.registry meter) with
    | ok output done => rw [performAt_call_of_ok hact, perform_call_of_ok hact]
    | error error stopped => rw [performAt_call_of_error hact, perform_call_of_error hact]
  | complete id now =>
    cases hlive : desk.registry.live? id now with
    | none => rw [performAt_complete_of_dead hlive, perform_complete_of_dead hlive]
    | some ticket => rw [performAt_complete_of_live hlive, perform_complete_of_live hlive]

theorem performAt_fate (operation : Operation) (desk : Desk κ) (id : TicketId) :
    ∃ logged, Fate id operation (desk.registry.get? id)
      ((operation.performAt desk).2.registry.get? id) logged := by
  obtain ⟨logged, fate, _⟩ := perform_fate operation ⟨desk.registry, []⟩ id
  exact ⟨logged, registry_performAt operation desk ▸ fate⟩

/-- A call that does not go through leaves the tickets as they were. -/
theorem went_through_of_changed {request : Call} {context : CallContext} {meter : Meter}
    {id : TicketId}
    (h : ((call request context meter).performAt desk).2.registry.get? id ≠ desk.registry.get? id) :
    ((call request context meter).performAt desk).1.outcome = .ok () := by
  cases hact : request.act context (trial desk.registry meter) with
  | ok output done =>
    rw [performAt_call_of_ok hact]
    rfl
  | error error stopped =>
    rw [performAt_call_of_error hact] at h
    exact absurd rfl h

end Operation

/-! ## What an operation may do to a ticket -/

/-- Tickets that are the same but for their timeout and their attempts. -/
structure Ticket.SameTerms (ticket ticket' : Ticket) : Prop where
  id : ticket'.id = ticket.id
  sender : ticket'.sender = ticket.sender
  target : ticket'.target = ticket.target
  value : ticket'.value = ticket.value
  beneficiary : ticket'.beneficiary = ticket.beneficiary
  calldata : ticket'.calldata = ticket.calldata

namespace Ticket.SameTerms

variable {a b c : Ticket}

theorem refl (ticket : Ticket) : ticket.SameTerms ticket := ⟨rfl, rfl, rfl, rfl, rfl, rfl⟩

theorem trans (h : a.SameTerms b) (h' : b.SameTerms c) : a.SameTerms c :=
  ⟨h'.id.trans h.id, h'.sender.trans h.sender, h'.target.trans h.target, h'.value.trans h.value,
    h'.beneficiary.trans h.beneficiary, h'.calldata.trans h.calldata⟩

theorem of_nextAttempt? (h : a.nextAttempt? = some b) : a.SameTerms b := by
  obtain ⟨_, rfl⟩ := Ticket.nextAttempt?_eq_some_iff.1 h
  exact ⟨rfl, rfl, rfl, rfl, rfl, rfl⟩

end Ticket.SameTerms

/-- What may have become of a ticket that an operation found under an id. The sink does not take
part but for one thing: an end whose event it refuses has taken the ticket all the same. -/
structure Entitled {κ : Type} [EventSink κ] (id : TicketId) (ticket : Ticket) (desk : Desk κ)
    (operation : Operation) (answer : Answer) (found : Option Ticket) : Prop where
  removed : found = none →
    (∃ context meter, operation = .call (.cancel id) context meter ∧
      context.caller = ticket.beneficiary ∧ context.now < ticket.timeout ∧
      answer.outcome = .ok ()) ∨
    ∃ now, operation = .complete id now ∧ now < ticket.timeout ∧
      (answer.outcome = .ok () ∨ ∃ error, answer.outcome = .error error ∧
        (EventSink.emit (.redeemed id) desk.sink).1 = .error error)
  terms : ∀ ticket', found = some ticket' → ticket.SameTerms ticket'
  timeout : ∀ ticket', found = some ticket' → ticket'.timeout ≠ ticket.timeout →
    ∃ context meter, operation = .call (.keepalive id) context meter ∧ answer.outcome = .ok () ∧
      ticket'.timeout.toNat = context.now.toNat + 604800
  attempts : ∀ ticket', found = some ticket' → ticket'.attempts ≠ ticket.attempts →
    ∃ context meter, operation = .call (.redeem id) context meter ∧ answer.outcome = .ok () ∧
      ticket'.attempts.toNat = ticket.attempts.toNat + 1

namespace Entitled

variable {κ : Type} [EventSink κ] {id : TicketId} {ticket : Ticket} {desk : Desk κ}
  {operation : Operation} {answer : Answer} {ticket' : Ticket}

theorem same : Entitled id ticket desk operation answer (some ticket) where
  removed := nofun
  terms := by
    rintro _ ⟨⟩
    exact .refl ticket
  timeout := by
    rintro _ ⟨⟩ hne
    exact absurd rfl hne
  attempts := by
    rintro _ ⟨⟩ hne
    exact absurd rfl hne

/-- Attempts are counted on, and never back. -/
theorem attempts_le (h : Entitled id ticket desk operation answer (some ticket')) :
    ticket.attempts ≤ ticket'.attempts := by
  by_cases hsame : ticket'.attempts = ticket.attempts
  · exact hsame ▸ UInt64.le_refl _
  · obtain ⟨_, _, _, _, hone⟩ := h.attempts ticket' rfl hsame
    rw [UInt64.le_iff_toNat_le, hone]
    exact Nat.le_succ _

end Entitled

/-- A window that fits ends a week from now. -/
theorem Ticket.toNat_of_window {now timeout : UInt64}
    (h : Gas.plus? now Ticket.lifetime = some timeout) : timeout.toNat = now.toNat + 604800 := by
  obtain ⟨hfits, rfl⟩ := Gas.plus?_eq_some_iff.1 h
  rw [UInt64.toNat_add]
  exact Nat.mod_eq_of_lt hfits

theorem entitled_performAt {κ : Type} [EventSink κ] (operation : Operation) (desk : Desk κ)
    {id : TicketId} {ticket : Ticket} (h : desk.registry.get? id = some ticket) :
    Entitled id ticket desk operation (operation.performAt desk).1
      ((operation.performAt desk).2.registry.get? id) := by
  obtain ⟨logged, fate⟩ := operation.performAt_fate desk id
  generalize hafter : (operation.performAt desk).2.registry.get? id = after at fate ⊢
  rw [h] at fate
  cases fate with
  | untouched => exact .same
  | canceled context meter _ live entitled =>
    have hwent := Operation.went_through_of_changed (by
      rw [hafter, h]
      exact nofun)
    exact ⟨fun _ => Or.inl ⟨context, meter, rfl, entitled, live, hwent⟩, nofun, nofun, nofun⟩
  -- A keepalive may set the timeout to what it was, so that it went through is shown by a change.
  | extended context meter _ timeout live window =>
    refine ⟨nofun, ?_, ?_, ?_⟩
    · rintro _ ⟨⟩
      exact ⟨rfl, rfl, rfl, rfl, rfl, rfl⟩
    · rintro _ ⟨⟩ hne
      have hwent := Operation.went_through_of_changed (by
        rw [hafter, h]
        exact fun hsame => hne (congrArg Ticket.timeout (Option.some.inj hsame)))
      exact ⟨context, meter, rfl, hwent, Ticket.toNat_of_window window⟩
    · rintro _ ⟨⟩ hne
      exact absurd rfl hne
  | scheduled context meter _ next donated live counted =>
    have hone := Ticket.attempts_of_nextAttempt? counted
    have hwent := Operation.went_through_of_changed (by
      rw [hafter, h]
      intro hsame
      rw [Option.some.inj hsame] at hone
      omega)
    refine ⟨nofun, ?_, ?_, ?_⟩
    · rintro _ ⟨⟩
      exact .of_nextAttempt? counted
    · rintro _ ⟨⟩ hne
      obtain ⟨_, rfl⟩ := Ticket.nextAttempt?_eq_some_iff.1 counted
      exact absurd rfl hne
    · rintro _ ⟨⟩ _
      exact ⟨context, meter, rfl, hwent, hone⟩
  | redeemed now _ live =>
    have hget : desk.registry.live? id now = some ticket :=
      Registry.live?_eq_some_iff.2 ⟨h, live⟩
    refine ⟨fun _ => Or.inr ⟨now, rfl, live, ?_⟩, nofun, nofun, nofun⟩
    rw [Operation.performAt_complete_of_live hget]
    rcases hemit : EventSink.emit (.redeemed id) desk.sink with ⟨error | u, sink⟩
    · exact Or.inr ⟨error, rfl, rfl⟩
    · exact Or.inl rfl

/-! ## Along a run -/

/-- A desk after some operations. -/
def Desk.after {κ : Type} [EventSink κ] (operations : List Operation) (desk : Desk κ) : Desk κ :=
  operations.foldl (fun desk operation => (operation.performAt desk).2) desk

theorem Desk.after_append_singleton {κ : Type} [EventSink κ] (operations : List Operation)
    (operation : Operation) (desk : Desk κ) :
    desk.after (operations ++ [operation]) = (operation.performAt (desk.after operations)).2 := by
  simp [Desk.after]

/-- As long as it is there, a ticket keeps its terms, and its attempts are counted on. -/
theorem kept_along {κ : Type} [EventSink κ] {desk : Desk κ} {id : TicketId} {ticket : Ticket}
    (h : desk.registry.get? id = some ticket) {operations : List Operation}
    (hthere : ∀ before, before <+: operations → (desk.after before).registry.get? id ≠ none) :
    ∃ ticket', (desk.after operations).registry.get? id = some ticket' ∧
      ticket.SameTerms ticket' ∧ ticket.attempts ≤ ticket'.attempts := by
  induction operations using List.reverseRecOn with
  | nil => exact ⟨ticket, h, .refl ticket, UInt64.le_refl _⟩
  | append_singleton operations operation ih =>
    obtain ⟨found, hfound, hterms, hattempts⟩ :=
      ih fun before hbefore => hthere before (hbefore.trans (List.prefix_append _ _))
    -- The ticket was there before the last operation and is there behind it.
    have hentitled := entitled_performAt operation (desk.after operations) hfound
    rw [← Desk.after_append_singleton] at hentitled
    obtain ⟨next, hnext⟩ := Option.ne_none_iff_exists'.1 (hthere _ (List.prefix_refl _))
    rw [hnext] at hentitled
    exact ⟨next, hnext, hterms.trans (hentitled.terms next rfl),
      UInt64.le_trans hattempts hentitled.attempts_le⟩

/-! ## The law -/

/-- Whatever the operation and whatever the sink, a ticket is taken away only by its beneficiary or
by its end, either of them before its timeout. Its timeout is moved only by a keepalive and its
attempts are counted only by a redeem that goes through, and it keeps its terms. So it does along
every run, as long as it is there. -/
theorem only_the_entitled_change_a_ticket {κ : Type} [EventSink κ] (desk : Desk κ) (id : TicketId)
    (ticket : Ticket) (h : desk.registry.get? id = some ticket) :
    (∀ operation : Operation,
      let (answer, after) := operation.performAt desk
      Entitled id ticket desk operation answer (after.registry.get? id)) ∧
    ∀ operations : List Operation,
      (∀ before, before <+: operations → (desk.after before).registry.get? id ≠ none) →
      ∃ ticket', (desk.after operations).registry.get? id = some ticket' ∧
        ticket.SameTerms ticket' ∧ ticket.attempts ≤ ticket'.attempts :=
  ⟨fun operation => entitled_performAt operation desk h, fun _ hthere => kept_along h hthere⟩

/-- A desk with one ticket. -/
def Desk.plain {κ : Type} (sink : κ) : Desk κ := ⟨Registry.empty.put .zero .plain, sink⟩

def Operation.attemptPlain : Operation := .call (.redeem .zero) ⟨.zero, 0⟩ (.ofLimit 10000)

theorem a_plain_ticket_is_safe_at_a_desk :
    (Desk.plain EventLog.empty).registry.get? .zero = some .plain ∧
      Entitled .zero .plain (Desk.plain EventLog.empty) (.complete .zero 1) (.ended (.ok ())) none ∧
      ∃ ticket', ((Desk.plain EventLog.empty).after [.attemptPlain]).registry.get? .zero =
          some ticket' ∧
        Ticket.plain.SameTerms ticket' ∧ Ticket.plain.attempts ≤ ticket'.attempts := by
  obtain ⟨hstep, hrun⟩ :=
    only_the_entitled_change_a_ticket (Desk.plain EventLog.empty) .zero .plain rfl
  refine ⟨rfl, hstep (.complete .zero 1), hrun [.attemptPlain] fun before hbefore => ?_⟩
  rcases List.prefix_cons_iff.1 hbefore with rfl | ⟨rest, rfl, hrest⟩
  · exact nofun
  · rw [List.prefix_nil.1 hrest]
    exact nofun

/-- An end that is refused for its event has taken the ticket all the same. -/
theorem an_end_that_was_refused_took_the_ticket :
    let desk : Desk Bench.SwitchedSink := .plain ⟨.empty, .refuse⟩
    let (answer, after) := (Operation.complete .zero 1).performAt desk
    desk.registry.get? .zero = some .plain ∧
      answer = .ended (.error (.state .logUnavailable)) ∧ after.registry.get? .zero = none :=
  ⟨rfl, rfl, rfl⟩

end RetryTickets
