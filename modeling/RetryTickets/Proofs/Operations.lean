-- The outer operations on a ledger, which is a registry of tickets and the
-- log of all events so far. Whatever an operation is given, it does one of
-- six things to the ledger: nothing, or one of five changes, each of which is
-- logged by one event.
import RetryTickets.Proofs.Calls

namespace RetryTickets

/-- The tickets, and all that happened to them, oldest first. -/
structure Ledger where
  registry : Registry
  events : List Event

/-- An operation with all that it is given. -/
inductive Operation where
  | create (ticket : Ticket)
  | call (call : Call) (context : CallContext) (meter : Meter)
  | complete (id : TicketId) (now : UInt64)

/-- What came of an operation. -/
inductive Answer where
  | made (result : Except Error TicketId)
  /-- The receipt of a call, and the meter after it. -/
  | called (receipt : Receipt) (meter : Meter)
  | ended (result : Except Error Unit)

/-- Whether an operation went through. -/
def Answer.outcome : Answer → Except Error Unit
  | .made result => result.map fun _ => ()
  | .called receipt _ => receipt.result.map fun _ => ()
  | .ended result => result

namespace Ledger

/-- No tickets, and nothing happened. -/
def empty : Ledger := ⟨.empty, []⟩

/-- The scene of a request on a ledger. -/
def scene (ledger : Ledger) (meter : Meter) : Scene Registry EventLog :=
  ⟨ledger.registry, ⟨ledger.events⟩, meter, []⟩

/-- The ledger of a scene. -/
def ofScene (scene : Scene Registry EventLog) : Ledger := ⟨scene.store, scene.sink.events⟩

/-- Plays a request that needs no gas on a ledger. -/
def request {α : Type} (action : Action Registry EventLog α) (ledger : Ledger) :
    Except Error α × Ledger :=
  match action (ledger.scene (.ofLimit 0)) with
  | .ok a scene => (.ok a, ofScene scene)
  | .error error scene => (.error error, ofScene scene)

end Ledger

namespace Operation

/-- Performs an operation. -/
def perform (ledger : Ledger) : Operation → Answer × Ledger
  | .create ticket =>
    let (result, ledger) := ledger.request (Dispatch.createTicket ticket)
    (.made result, ledger)
  | .call request context meter =>
    let (receipt, scene) := Dispatch.execute request context (ledger.scene meter)
    (.called receipt scene.meter, .ofScene scene)
  | .complete id now =>
    let (result, ledger) := ledger.request (Dispatch.completeRedeem id now)
    (.ended result, ledger)

end Operation

/-- The ledger after some operations on an empty one. -/
def Ledger.after (operations : List Operation) : Ledger :=
  operations.foldl (fun ledger operation => (operation.perform ledger).2) .empty

theorem Ledger.after_append_singleton (operations : List Operation) (operation : Operation) :
    Ledger.after (operations ++ [operation]) = (operation.perform (.after operations)).2 := by
  simp [Ledger.after]

/-! ## The making and the end of tickets -/

namespace Dispatch

open RetryTickets.Action

variable {s : Scene Registry EventLog}

theorem createTicket_of_new {ticket : Ticket} (h : s.store.get? ticket.id = none) :
    createTicket ticket s = .ok ticket.id { s with
      store := s.store.put ticket.id ticket
      sink := s.sink.push (.created ticket.id)
      notices := s.notices ++ [.created ticket.id] } := by
  simp only [createTicket, bind_ok_iff, change_ok_iff, tell_ok_iff, offer_ok_iff, pure_ok_iff]
  exact ⟨(), _, ⟨_, Registry.insert_ok_iff.2 ⟨h, rfl⟩, rfl⟩, (), _, rfl, (), _, rfl, trivial, rfl⟩

theorem createTicket_of_taken {κ : Type} [EventSink κ] {s : Scene Registry κ} {ticket found : Ticket}
    (h : s.store.get? ticket.id = some found) :
    createTicket ticket s = .error (.store (.alreadyExists ticket.id)) s := by
  apply bind_of_error
  simp [change, Registry.insert, h]

theorem completeRedeem_of_live {id : TicketId} {now : UInt64} {ticket : Ticket}
    (h : s.store.live? id now = some ticket) :
    completeRedeem id now s = .ok () { s with
      store := s.store.erase id
      sink := s.sink.push (.redeemed id)
      notices := s.notices ++ [.redeemed id] } := by
  have hget := (Registry.live?_eq_some_iff.1 h).1
  simp only [completeRedeem, bind_ok_iff, requireLive_ok_iff, change_ok_iff, tell_ok_iff,
    offer_ok_iff]
  exact ⟨(), _, ⟨⟨ticket, Registry.openTicket_eq_some_iff.2 h⟩, rfl⟩, 0, _,
    ⟨_, Registry.delete_ok_iff.2 ⟨rfl, ⟨ticket, hget⟩, rfl⟩, rfl⟩, (), _, rfl, rfl⟩

theorem requireLive_of_live {κ : Type} {s : Scene Registry κ} {id : TicketId} {now : UInt64}
    {ticket : Ticket} (h : s.store.live? id now = some ticket) :
    Controller.requireLive id now s = .ok () s :=
  requireLive_ok_iff.2 ⟨⟨ticket, Registry.openTicket_eq_some_iff.2 h⟩, rfl⟩

theorem requireLive_of_dead {κ : Type} {s : Scene Registry κ} {id : TicketId} {now : UInt64}
    (h : s.store.live? id now = none) : Controller.requireLive id now s = .error .notFound s := by
  have hopen : TicketStore.openTicket s.store id now = .ok none := by
    simp [TicketStore.openTicket, h]
  have hask : ask (fun store => TicketStore.openTicket store id now) s = .ok none s :=
    ask_ok_iff.2 ⟨hopen, rfl⟩
  exact bind_of_ok hask

theorem completeRedeem_of_dead {κ : Type} [EventSink κ] {s : Scene Registry κ} {id : TicketId}
    {now : UInt64} (h : s.store.live? id now = none) :
    completeRedeem id now s = .error .notFound s :=
  bind_of_error (requireLive_of_dead h)

/-- A log takes all events, one behind the other. -/
theorem deliver_log (call : Call) (events : List Event) (log : EventLog) :
    deliver call events log = (⟨log.events ++ events⟩, []) := by
  induction events generalizing log with
  | nil => simp [deliver]
  | cons event rest ih =>
    have hpush : EventSink.emit event log = (.ok (), log.push event) := rfl
    simp [deliver, hpush, ih, EventLog.push]

end Dispatch

/-! ## What comes of each operation -/

namespace Operation

variable {ledger : Ledger}

theorem perform_create_of_new {ticket : Ticket} (h : ledger.registry.get? ticket.id = none) :
    (create ticket).perform ledger = (.made (.ok ticket.id),
      ⟨ledger.registry.put ticket.id ticket, ledger.events ++ [.created ticket.id]⟩) := by
  have hcreate := Dispatch.createTicket_of_new (s := ledger.scene (.ofLimit 0)) h
  simp only [perform, Ledger.request, hcreate]
  rfl

theorem perform_create_of_taken {ticket found : Ticket}
    (h : ledger.registry.get? ticket.id = some found) :
    (create ticket).perform ledger =
      (.made (.error (.store (.alreadyExists ticket.id))), ledger) := by
  have hcreate := Dispatch.createTicket_of_taken (s := ledger.scene (.ofLimit 0)) h
  simp only [perform, Ledger.request, hcreate]
  rfl

theorem perform_complete_of_live {id : TicketId} {now : UInt64} {ticket : Ticket}
    (h : ledger.registry.live? id now = some ticket) :
    (complete id now).perform ledger = (.ended (.ok ()),
      ⟨ledger.registry.erase id, ledger.events ++ [.redeemed id]⟩) := by
  have hcomplete := Dispatch.completeRedeem_of_live (s := ledger.scene (.ofLimit 0)) h
  simp only [perform, Ledger.request, hcomplete]
  rfl

theorem perform_complete_of_dead {id : TicketId} {now : UInt64}
    (h : ledger.registry.live? id now = none) :
    (complete id now).perform ledger = (.ended (.error .notFound), ledger) := by
  have hcomplete := Dispatch.completeRedeem_of_dead (s := ledger.scene (.ofLimit 0)) h
  simp only [perform, Ledger.request, hcomplete]
  rfl

/-- The scene on which a call is tried. -/
def trial (registry : Registry) (meter : Meter) : Scene Registry EventLog :=
  ⟨registry, .empty, meter, []⟩

theorem perform_call_of_ok {request : Call} {context : CallContext} {meter : Meter} {output : Output}
    {done : Scene Registry EventLog}
    (h : request.act context (trial ledger.registry meter) = .ok output done) :
    (call request context meter).perform ledger =
      (.called ⟨output, done.meter.burned - meter.burned, none⟩ done.meter,
        ⟨done.store, ledger.events ++ done.sink.events⟩) := by
  unfold trial at h
  simp only [perform, Dispatch.execute, Ledger.scene, h, Dispatch.deliver_log]
  rfl

theorem perform_call_of_error {request : Call} {context : CallContext} {meter : Meter}
    {error : Error} {stopped : Scene Registry EventLog}
    (h : request.act context (trial ledger.registry meter) = .error error stopped) :
    (call request context meter).perform ledger =
      (.called ⟨request.zeroOutput, stopped.meter.burned - meter.burned, some error⟩ stopped.meter,
        ledger) := by
  unfold trial at h
  simp only [perform, Dispatch.execute, Ledger.scene, h]
  rfl

end Operation

/-! ## What an operation can do -/

/-- What an operation can do to a registry, and the events that it logs. Calls that only ask
do as little as operations that are refused. -/
inductive Effect (registry : Registry) : Operation → Registry → List Event → Prop where
  | nothing (operation : Operation) : Effect registry operation registry []
  | created (ticket : Ticket) (isNew : registry.get? ticket.id = none) :
      Effect registry (.create ticket) (registry.put ticket.id ticket) [.created ticket.id]
  | canceled (id : TicketId) (context : CallContext) (meter : Meter) (ticket : Ticket)
      (live : registry.live? id context.now = some ticket)
      (entitled : context.caller = ticket.beneficiary) :
      Effect registry (.call (.cancel id) context meter) (registry.erase id) [.canceled id]
  | extended (id : TicketId) (context : CallContext) (meter : Meter) (ticket : Ticket)
      (timeout : UInt64) (live : registry.live? id context.now = some ticket)
      (window : Gas.plus? context.now Ticket.lifetime = some timeout) :
      Effect registry (.call (.keepalive id) context meter)
        (registry.put id { ticket with timeout := timeout }) [.extended id timeout]
  | scheduled (id : TicketId) (context : CallContext) (meter : Meter) (ticket next : Ticket)
      (donated : UInt64) (live : registry.live? id context.now = some ticket)
      (counted : ticket.nextAttempt? = some next) :
      Effect registry (.call (.redeem id) context meter) (registry.put id next)
        [.scheduled id (id.retry next.attempts) next.attempts donated context.caller]
  | redeemed (id : TicketId) (now : UInt64) (ticket : Ticket)
      (live : registry.live? id now = some ticket) :
      Effect registry (.complete id now) (registry.erase id) [.redeemed id]

/-- What a call that goes through does, on a log of its own. -/
theorem effect_of_act {call : Call} {context : CallContext} {meter : Meter} {registry : Registry}
    {output : Output} {done : Scene Registry EventLog}
    (h : call.act context (Operation.trial registry meter) = .ok output done) :
    Effect registry (.call call context meter) done.store done.sink.events := by
  cases Call.answers_of_act h with
  | cancel h =>
    obtain ⟨ticket, hlive, hcaller, hstore, hsink⟩ := Controller.canceled h
    rw [hstore, hsink]
    exact .canceled _ context meter ticket hlive hcaller
  | getBeneficiary h =>
    rw [Controller.beneficiary_ok h]
    exact .nothing _
  | getLifetime => exact .nothing _
  | getTimeout h =>
    rw [Controller.timeout_ok h]
    exact .nothing _
  | keepalive h =>
    obtain ⟨ticket, hlive, hwindow, hstore, hsink⟩ := Controller.kept h
    rw [hstore, hsink]
    exact .extended _ context meter ticket _ hlive hwindow
  | redeem h =>
    obtain ⟨ticket, next, donated, hlive, hnext, hretry, hstore, hsink⟩ := Controller.attempted h
    rw [hstore, hsink, hretry]
    exact .scheduled _ context meter ticket next donated hlive hnext

/-- Every operation has one of the effects, and logs its events behind those before. -/
theorem perform_effect (operation : Operation) (ledger : Ledger) :
    ∃ events, Effect ledger.registry operation (operation.perform ledger).2.registry events ∧
      (operation.perform ledger).2.events = ledger.events ++ events := by
  cases operation with
  | create ticket =>
    cases hget : ledger.registry.get? ticket.id with
    | none =>
      rw [Operation.perform_create_of_new hget]
      exact ⟨_, .created ticket hget, rfl⟩
    | some found =>
      rw [Operation.perform_create_of_taken hget]
      exact ⟨[], .nothing _, (List.append_nil _).symm⟩
  | call request context meter =>
    cases hact : request.act context (Operation.trial ledger.registry meter) with
    | ok output done =>
      rw [Operation.perform_call_of_ok hact]
      exact ⟨done.sink.events, effect_of_act hact, rfl⟩
    | error error stopped =>
      rw [Operation.perform_call_of_error hact]
      exact ⟨[], .nothing _, (List.append_nil _).symm⟩
  | complete id now =>
    cases hlive : ledger.registry.live? id now with
    | some ticket =>
      rw [Operation.perform_complete_of_live hlive]
      exact ⟨_, .redeemed id now ticket hlive, rfl⟩
    | none =>
      rw [Operation.perform_complete_of_dead hlive]
      exact ⟨[], .nothing _, (List.append_nil _).symm⟩

end RetryTickets
