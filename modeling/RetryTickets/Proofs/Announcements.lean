-- Steps that announce what they have done. The making and the end of a ticket tell
-- the sink of it when it has happened, and answer what the sink answers. So if the
-- sink refuses the event, the step fails and has happened all the same.
import RetryTickets.Proofs.Entitlement

namespace RetryTickets

namespace Operation

/-- What an operation tells the sink and waits for its answer. What a call tells is not of this
kind: the call has gone through, whatever the sink answers. -/
inductive Announces (registry : Registry) : Operation → Event → Prop
  | created {ticket : Ticket} (isNew : registry.get? ticket.id = none) :
      Announces registry (.create ticket) (.created ticket.id)
  | redeemed {id : TicketId} {now : UInt64} {ticket : Ticket}
      (live : registry.live? id now = some ticket) :
      Announces registry (.complete id now) (.redeemed id)

variable {κ : Type} [EventSink κ] {desk : Desk κ} {operation : Operation}

/-- The sink refuses what an operation announces. -/
def Unheard (desk : Desk κ) (operation : Operation) : Prop :=
  ∃ event error, operation.Announces desk.registry event ∧
    (EventSink.emit event desk.sink).1 = .error error

/-- What fails has announced something, or has left everything as it was. -/
theorem announces_of_failed {error : Error}
    (h : (operation.performAt desk).1.outcome = .error error) :
    (∃ event, operation.Announces desk.registry event) ∨ (operation.performAt desk).2 = desk := by
  cases operation with
  | create ticket =>
    cases hget : desk.registry.get? ticket.id with
    | none => exact Or.inl ⟨_, .created hget⟩
    | some found =>
      rw [performAt_create_of_taken hget]
      exact Or.inr rfl
  | call request context meter =>
    cases hact : request.act context (trial desk.registry meter) with
    | ok output done =>
      rw [performAt_call_of_ok hact] at h
      cases h
    | error error stopped =>
      rw [performAt_call_of_error hact]
      exact Or.inr rfl
  | complete id now =>
    cases hlive : desk.registry.live? id now with
    | none =>
      rw [performAt_complete_of_dead hlive]
      exact Or.inr rfl
    | some ticket => exact Or.inl ⟨_, .redeemed hlive⟩

/-- What announces something answers what the sink answers. -/
theorem Announces.outcome {event : Event} (h : operation.Announces desk.registry event) :
    (operation.performAt desk).1.outcome = (EventSink.emit event desk.sink).1 := by
  cases h with
  | @created ticket isNew =>
    rw [performAt_create_of_new isNew]
    rcases EventSink.emit (.created ticket.id) desk.sink with ⟨error | u, sink⟩ <;> rfl
  | redeemed live =>
    rw [performAt_complete_of_live live]
    rfl

/-- And it has been done by then. -/
theorem Announces.changed {event : Event} (h : operation.Announces desk.registry event) :
    (operation.performAt desk).2.registry ≠ desk.registry := by
  intro hsame
  cases h with
  | @created ticket isNew =>
    have hput : desk.registry.put ticket.id ticket = desk.registry := by
      rw [performAt_create_of_new isNew] at hsame
      exact hsame
    have hthere := Registry.get?_put desk.registry ticket.id ticket.id ticket
    rw [hput, isNew, if_pos rfl] at hthere
    cases hthere
  | @redeemed id now ticket live =>
    have herase : desk.registry.erase id = desk.registry := by
      rw [performAt_complete_of_live live] at hsame
      exact hsame
    have hgone := Registry.get?_erase desk.registry id id
    rw [herase, (Registry.live?_eq_some_iff.1 live).1, if_pos rfl] at hgone
    cases hgone

end Operation

/-! ## The law -/

/-- Whatever fails leaves the tickets and the sink as they were, unless it is the sink that refuses
the event of a making or of an end. Then the step is answered as failed, and the tickets are what
they would be if it had been heard. -/
theorem only_what_is_unheard_fails_behind_its_change {κ : Type} [EventSink κ] (desk : Desk κ)
    (operation : Operation) :
    let (answer, after) := operation.performAt desk
    (∀ error, answer.outcome = .error error → ¬ operation.Unheard desk → after = desk) ∧
    (operation.Unheard desk → (∃ error, answer.outcome = .error error) ∧
      after.registry ≠ desk.registry ∧
      after.registry = (operation.perform ⟨desk.registry, []⟩).2.registry) := by
  constructor
  · intro error hfailed hheard
    rcases Operation.announces_of_failed hfailed with ⟨event, hannounces⟩ | hsame
    · have hrefused := hannounces.outcome.symm.trans hfailed
      exact absurd ⟨event, error, hannounces, hrefused⟩ hheard
    · exact hsame
  · rintro ⟨event, error, hannounces, hrefused⟩
    exact ⟨⟨error, hannounces.outcome.trans hrefused⟩, hannounces.changed,
      Operation.registry_performAt operation desk⟩

/-- The making of a ticket was refused, and the ticket is there. -/
theorem a_ticket_whose_making_was_refused_is_there :
    let desk : Desk Bench.SwitchedSink := ⟨.empty, ⟨.empty, .refuse⟩⟩
    let (answer, after) := (Operation.create .plain).performAt desk
    answer.outcome = .error (.state .logUnavailable) ∧ desk.registry.get? .zero = none ∧
      after.registry.get? .zero = some .plain :=
  ⟨rfl, rfl, rfl⟩

end RetryTickets
