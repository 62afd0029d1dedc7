-- What an operation does to one id. Seen from there, an operation leaves
-- everything as it was, or it makes, extends, attempts or ends the one ticket
-- of that id, and the log gets one event about it.
import RetryTickets.Proofs.Operations

namespace RetryTickets

/-- The events about a ticket. -/
def Event.about (id : TicketId) (events : List Event) : List Event :=
  events.filter fun event => event.ticket = id

namespace Event

variable {id : TicketId}

@[simp] theorem about_append (events later : List Event) :
    about id (events ++ later) = about id events ++ about id later :=
  List.filter_append events later

theorem about_singleton (event : Event) :
    about id [event] = if event.ticket = id then [event] else [] := by
  by_cases h : event.ticket = id <;> simp [about, h]

theorem mem_about {event : Event} {events : List Event} :
    event ∈ about id events ↔ event ∈ events ∧ event.ticket = id := by
  simp [about]

end Event

/-- What an operation does to an id: what was under it, what is under it then, and the events
about it. An operation that would make a ticket leaves the id alone only if one is there. -/
inductive Fate (id : TicketId) : Operation → Option Ticket → Option Ticket → List Event → Prop where
  | untouched (operation : Operation) (found : Option Ticket)
      (taken : ∀ ticket, operation = .create ticket → ticket.id = id → found ≠ none) :
      Fate id operation found found []
  | created (ticket : Ticket) (named : ticket.id = id) :
      Fate id (.create ticket) none (some ticket) [.created id]
  | canceled (context : CallContext) (meter : Meter) (ticket : Ticket)
      (live : context.now < ticket.timeout) (entitled : context.caller = ticket.beneficiary) :
      Fate id (.call (.cancel id) context meter) (some ticket) none [.canceled id]
  | extended (context : CallContext) (meter : Meter) (ticket : Ticket) (timeout : UInt64)
      (live : context.now < ticket.timeout)
      (window : Gas.plus? context.now Ticket.lifetime = some timeout) :
      Fate id (.call (.keepalive id) context meter) (some ticket)
        (some { ticket with timeout := timeout }) [.extended id timeout]
  | scheduled (context : CallContext) (meter : Meter) (ticket next : Ticket) (donated : UInt64)
      (live : context.now < ticket.timeout) (counted : ticket.nextAttempt? = some next) :
      Fate id (.call (.redeem id) context meter) (some ticket) (some next)
        [.scheduled id (id.retry next.attempts) next.attempts donated context.caller]
  | redeemed (now : UInt64) (ticket : Ticket) (live : now < ticket.timeout) :
      Fate id (.complete id now) (some ticket) none [.redeemed id]

/-- The ticket an operation is about. -/
def Operation.ticket? : Operation → Option TicketId
  | .create ticket => some ticket.id
  | .call request _ _ => request.ticket?
  | .complete id _ => some id

/-- What an operation is not about it leaves alone. -/
theorem Fate.of_other {id : TicketId} {operation : Operation} {found found' : Option Ticket}
    {logged : List Event} (h : Fate id operation found found' logged)
    (hother : operation.ticket? ≠ some id) : found' = found ∧ logged = [] := by
  cases h with
  | untouched => exact ⟨rfl, rfl⟩
  | created ticket named => exact absurd (congrArg some named) hother
  | canceled => exact absurd rfl hother
  | extended => exact absurd rfl hother
  | scheduled => exact absurd rfl hother
  | redeemed => exact absurd rfl hother

/-- An operation that is about one key leaves every other id alone. -/
theorem Fate.seen_from {registry : Registry} {operation : Operation} {key : TicketId}
    {found found' : Option Ticket} {event : Event} (hfound : registry.get? key = found)
    (h : Fate key operation found found' [event]) (about : event.ticket = key)
    (makes : ∀ ticket, operation = .create ticket → ticket.id = key) (id : TicketId) :
    Fate id operation (registry.get? id)
      (if id = key then found' else registry.get? id) (Event.about id [event]) := by
  rw [Event.about_singleton, about]
  by_cases hid : key = id
  · subst hid
    rwa [if_pos rfl, if_pos rfl, hfound]
  · rw [if_neg (Ne.symm hid), if_neg hid]
    refine .untouched _ _ fun ticket hop hother => ?_
    exact absurd ((makes ticket hop).symm.trans hother) hid

/-- What an operation does to the registry, seen from one id. -/
theorem Effect.fate {registry registry' : Registry} {operation : Operation} {logged : List Event}
    (effect : Effect registry operation registry' logged) (id : TicketId)
    (taken : ∀ ticket, operation = .create ticket → registry'.get? ticket.id ≠ none) :
    Fate id operation (registry.get? id) (registry'.get? id) (Event.about id logged) := by
  cases effect with
  | nothing => exact .untouched operation _ fun ticket hop hid => hid ▸ taken ticket hop
  | created ticket isNew =>
    rw [Registry.get?_put]
    refine .seen_from isNew (.created ticket rfl) rfl (fun other hop => ?_) id
    cases hop
    rfl
  | canceled key context meter ticket live entitled =>
    obtain ⟨hget, hlive⟩ := Registry.live?_eq_some_iff.1 live
    rw [Registry.get?_erase]
    exact .seen_from hget (.canceled context meter ticket hlive entitled) rfl
      (fun _ hop => nomatch hop) id
  | extended key context meter ticket timeout live window =>
    obtain ⟨hget, hlive⟩ := Registry.live?_eq_some_iff.1 live
    rw [Registry.get?_put]
    exact .seen_from hget (.extended context meter ticket timeout hlive window) rfl
      (fun _ hop => nomatch hop) id
  | scheduled key context meter ticket next donated live counted =>
    obtain ⟨hget, hlive⟩ := Registry.live?_eq_some_iff.1 live
    rw [Registry.get?_put]
    exact .seen_from hget (.scheduled context meter ticket next donated hlive counted) rfl
      (fun _ hop => nomatch hop) id
  | redeemed key now ticket live =>
    obtain ⟨hget, hlive⟩ := Registry.live?_eq_some_iff.1 live
    rw [Registry.get?_erase]
    exact .seen_from hget (.redeemed now ticket hlive) rfl
      (fun _ hop => nomatch hop) id

/-- After an operation that would make a ticket there is one under its id. -/
theorem perform_create_taken (ticket : Ticket) (ledger : Ledger) :
    ((Operation.create ticket).perform ledger).2.registry.get? ticket.id ≠ none := by
  cases hget : ledger.registry.get? ticket.id with
  | none => simp [Operation.perform_create_of_new hget]
  | some found => simp [Operation.perform_create_of_taken hget, hget]

/-- Every operation has one of the fates for an id, and logs its events behind those before. -/
theorem perform_fate (operation : Operation) (ledger : Ledger) (id : TicketId) :
    ∃ logged, Fate id operation (ledger.registry.get? id)
        ((operation.perform ledger).2.registry.get? id) logged ∧
      Event.about id (operation.perform ledger).2.events =
        Event.about id ledger.events ++ logged := by
  obtain ⟨logged, effect, hlogged⟩ := perform_effect operation ledger
  refine ⟨Event.about id logged, effect.fate id ?_, by rw [hlogged, Event.about_append]⟩
  rintro ticket rfl
  exact perform_create_taken ticket ledger

end RetryTickets
