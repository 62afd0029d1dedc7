-- The log tells which tickets there are. A ticket is there just when the last
-- turn of its life in the log is its making, and what happened to it since is
-- counted by the events since then.
import Mathlib.Data.List.Induction
import RetryTickets.Proofs.Operations

namespace RetryTickets

namespace Event

/-- Whether an event begins or ends the life of a ticket. -/
def turnsLife (id : TicketId) : Event → Bool
  | created ticket => ticket = id
  | redeemed ticket => ticket = id
  | canceled ticket => ticket = id
  | extended _ _ => false
  | scheduled _ _ _ _ _ => false

/-- Whether an event is an attempt at a ticket's call. -/
def isAttemptAt (id : TicketId) : Event → Bool
  | scheduled ticket _ _ _ _ => ticket = id
  | _ => false

/-- The timeout that an event gives to a ticket. -/
def timeoutOf? (id : TicketId) : Event → Option UInt64
  | extended ticket timeout => if ticket = id then some timeout else none
  | _ => none

end Event

/-- The last event of a log that begins or ends the life of a ticket. -/
def lastTurn (id : TicketId) (events : List Event) : Option Event :=
  (events.filter (Event.turnsLife id)).getLast?

/-- A ticket as it is after the events of its life so far, of which the making is left out. -/
structure Lived (id : TicketId) (made ticket : Ticket) (later : List Event) : Prop where
  /-- The making was the last one. -/
  not_made_again : .created id ∉ later
  attempts : ticket.attempts.toNat = made.attempts.toNat + later.countP (Event.isAttemptAt id)
  timeout : ticket.timeout = (later.filterMap (Event.timeoutOf? id)).getLast?.getD made.timeout

/-- In the course of the operations a ticket was made under an id, and these events were
logged later. -/
def MadeWith (operations : List Operation) (id : TicketId) (made : Ticket) (later : List Event) :
    Prop :=
  ∃ before after, operations = before ++ .create made :: after ∧ made.id = id ∧
    (Ledger.after (before ++ [.create made])).events =
      (Ledger.after before).events ++ [.created id] ∧
    (Ledger.after operations).events = (Ledger.after before).events ++ .created id :: later

/-! ## The last turn of a life -/

theorem lastTurn_append_singleton (id : TicketId) (events : List Event) (event : Event) :
    lastTurn id (events ++ [event]) =
      if event.turnsLife id then some event else lastTurn id events := by
  unfold lastTurn
  rw [List.filter_append]
  by_cases h : event.turnsLife id = true
  · simp [h]
  · simp [h]

/-- A step leaves a ticket there if it makes it, or if it was there and the step does not end
its life. -/
theorem Effect.present_iff {registry registry' : Registry} {operation : Operation}
    {logged events : List Event} {id : TicketId} (effect : Effect registry operation registry' logged)
    (h : (registry.get? id).isSome = true ↔ lastTurn id events = some (.created id)) :
    (registry'.get? id).isSome = true ↔ lastTurn id (events ++ logged) = some (.created id) := by
  cases effect with
  | nothing => simpa using h
  | created ticket isNew =>
    rw [lastTurn_append_singleton, Registry.get?_put]
    by_cases hid : id = ticket.id
    · simp [Event.turnsLife, hid]
    · simpa [Event.turnsLife, hid, Ne.symm hid] using h
  | canceled key context meter ticket live entitled =>
    rw [lastTurn_append_singleton, Registry.get?_erase]
    by_cases hid : id = key
    · simp [Event.turnsLife, hid]
    · simpa [Event.turnsLife, hid, Ne.symm hid] using h
  | extended key context meter ticket timeout live window =>
    rw [lastTurn_append_singleton, Registry.get?_put]
    by_cases hid : id = key
    · subst hid
      rw [(Registry.live?_eq_some_iff.1 live).1] at h
      simpa [Event.turnsLife] using h
    · simpa [Event.turnsLife, hid] using h
  | scheduled key context meter ticket next donated live counted =>
    rw [lastTurn_append_singleton, Registry.get?_put]
    by_cases hid : id = key
    · subst hid
      rw [(Registry.live?_eq_some_iff.1 live).1] at h
      simpa [Event.turnsLife] using h
    · simpa [Event.turnsLife, hid] using h
  | redeemed key now ticket live =>
    rw [lastTurn_append_singleton, Registry.get?_erase]
    by_cases hid : id = key
    · simp [Event.turnsLife, hid]
    · simpa [Event.turnsLife, hid, Ne.symm hid] using h

theorem present_iff_lastTurn (operations : List Operation) (id : TicketId) :
    ((Ledger.after operations).registry.get? id).isSome = true ↔
      lastTurn id (Ledger.after operations).events = some (.created id) := by
  induction operations using List.reverseRecOn with
  | nil => simp [Ledger.after, Ledger.empty, Registry.get?, Registry.empty, lastTurn]
  | append_singleton operations operation ih =>
    obtain ⟨logged, effect, hevents⟩ := perform_effect operation (.after operations)
    rw [Ledger.after_append_singleton, hevents]
    exact effect.present_iff ih

/-! ## The course of a life -/

namespace Lived

variable {id : TicketId} {made ticket : Ticket} {later : List Event}

theorem start (id : TicketId) (made : Ticket) : Lived id made made [] := ⟨by simp, by simp, by simp⟩

/-- What happens to other tickets is no part of a life. -/
theorem other (h : Lived id made ticket later) {event : Event} (hne : event.ticket ≠ id) :
    Lived id made ticket (later ++ [event]) := by
  have hnot : event ≠ .created id := by
    rintro rfl
    exact hne rfl
  have hcount : event.isAttemptAt id = false := by
    cases event <;> simp_all [Event.isAttemptAt, Event.ticket]
  have htimeout : event.timeoutOf? id = none := by
    cases event <;> simp_all [Event.timeoutOf?, Event.ticket]
  refine ⟨?_, ?_, ?_⟩
  · simp [h.not_made_again, Ne.symm hnot]
  · simp [h.attempts, hcount]
  · simp [h.timeout, htimeout]

theorem extend (h : Lived id made ticket later) (timeout : UInt64) :
    Lived id made { ticket with timeout := timeout } (later ++ [.extended id timeout]) := by
  refine ⟨?_, ?_, ?_⟩
  · simp [h.not_made_again]
  · simp [h.attempts, Event.isAttemptAt]
  · simp [Event.timeoutOf?]

theorem attempt (h : Lived id made ticket later) {next : Ticket} (hnext : ticket.nextAttempt? = some next)
    (retry : TicketId) (sequence donated : UInt64) (donor : Address) :
    Lived id made next (later ++ [.scheduled id retry sequence donated donor]) := by
  obtain ⟨hroom, rfl⟩ := Ticket.nextAttempt?_eq_some_iff.1 hnext
  refine ⟨?_, ?_, ?_⟩
  · simp [h.not_made_again]
  · have hone : (ticket.attempts + 1).toNat = ticket.attempts.toNat + 1 := by
      rw [UInt64.toNat_add]
      exact Nat.mod_eq_of_lt hroom
    simp [hone, h.attempts, Event.isAttemptAt]
    omega
  · simp [h.timeout, Event.timeoutOf?]

end Lived

/-- A ticket that is there after a step was made by it, or was there before and lived on. -/
theorem Effect.life {registry registry' : Registry} {operation : Operation} {logged : List Event}
    {id : TicketId} {ticket : Ticket} (effect : Effect registry operation registry' logged)
    (h : registry'.get? id = some ticket) :
    (operation = .create ticket ∧ ticket.id = id ∧ logged = [.created id]) ∨
      ∃ old, registry.get? id = some old ∧
        ∀ made later, Lived id made old later → Lived id made ticket (later ++ logged) := by
  cases effect with
  | nothing => exact Or.inr ⟨ticket, h, fun _ later life => by simpa using life⟩
  | created new isNew =>
    rw [Registry.get?_put] at h
    by_cases hid : id = new.id
    · simp only [hid, if_true, Option.some.injEq] at h
      subst h
      exact Or.inl ⟨rfl, hid.symm, by rw [hid]⟩
    · simp only [hid, if_false] at h
      exact Or.inr ⟨ticket, h, fun _ _ life => life.other (Ne.symm hid)⟩
  | canceled key context meter found live entitled =>
    rw [Registry.get?_erase] at h
    by_cases hid : id = key
    · simp [hid] at h
    · simp only [hid, if_false] at h
      exact Or.inr ⟨ticket, h, fun _ _ life => life.other (Ne.symm hid)⟩
  | extended key context meter found timeout live window =>
    rw [Registry.get?_put] at h
    by_cases hid : id = key
    · subst hid
      simp only [if_true, Option.some.injEq] at h
      subst h
      exact Or.inr ⟨found, (Registry.live?_eq_some_iff.1 live).1, fun _ _ life => life.extend timeout⟩
    · simp only [hid, if_false] at h
      exact Or.inr ⟨ticket, h, fun _ _ life => life.other (Ne.symm hid)⟩
  | scheduled key context meter found next donated live counted =>
    rw [Registry.get?_put] at h
    by_cases hid : id = key
    · subst hid
      simp only [if_true, Option.some.injEq] at h
      subst h
      exact Or.inr ⟨found, (Registry.live?_eq_some_iff.1 live).1,
        fun _ _ life => life.attempt counted _ _ _ _⟩
    · simp only [hid, if_false] at h
      exact Or.inr ⟨ticket, h, fun _ _ life => life.other (Ne.symm hid)⟩
  | redeemed key now found live =>
    rw [Registry.get?_erase] at h
    by_cases hid : id = key
    · simp [hid] at h
    · simp only [hid, if_false] at h
      exact Or.inr ⟨ticket, h, fun _ _ life => life.other (Ne.symm hid)⟩

/-- The events of a later operation come behind those since the making. -/
theorem MadeWith.append {operations : List Operation} {operation : Operation} {id : TicketId}
    {made : Ticket} {later logged : List Event} (h : MadeWith operations id made later)
    (hlogged : (Ledger.after (operations ++ [operation])).events =
      (Ledger.after operations).events ++ logged) :
    MadeWith (operations ++ [operation]) id made (later ++ logged) := by
  obtain ⟨before, after, rfl, hid, hmade, hlater⟩ := h
  refine ⟨before, after ++ [operation], by simp, hid, hmade, ?_⟩
  rw [hlogged, hlater]
  simp

theorem lived_of_present (operations : List Operation) (id : TicketId) (ticket : Ticket)
    (h : (Ledger.after operations).registry.get? id = some ticket) :
    ∃ made later, MadeWith operations id made later ∧ Lived id made ticket later := by
  induction operations using List.reverseRecOn generalizing ticket with
  | nil => simp [Ledger.after, Ledger.empty, Registry.get?, Registry.empty] at h
  | append_singleton operations operation ih =>
    obtain ⟨logged, effect, hlogged⟩ := perform_effect operation (.after operations)
    rw [← Ledger.after_append_singleton] at effect hlogged
    rcases effect.life h with ⟨rfl, hid, rfl⟩ | ⟨old, hold, hlive⟩
    · exact ⟨ticket, [], ⟨operations, [], rfl, hid, hlogged, hlogged⟩, .start id ticket⟩
    · obtain ⟨made, later, hmade, life⟩ := ih old hold
      exact ⟨made, later ++ logged, hmade.append hlogged, hlive made later life⟩

/-! ## The law -/

/-- After any operations on an empty ledger, whichever of them went through, the log alone
tells which tickets there are: those whose last turn is their making. How often a ticket was
attempted and when it ends follows from what it was made with and the events since. -/
theorem the_log_tells_the_tickets (operations : List Operation) (id : TicketId) :
    (((Ledger.after operations).registry.get? id).isSome = true ↔
      lastTurn id (Ledger.after operations).events = some (.created id)) ∧
    ∀ ticket, (Ledger.after operations).registry.get? id = some ticket →
      ∃ made later, MadeWith operations id made later ∧ Lived id made ticket later :=
  ⟨present_iff_lastTurn operations id, lived_of_present operations id⟩

end RetryTickets
