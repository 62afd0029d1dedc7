-- The log tells the lives of a ticket one after the other. A life begins with
-- the making of the ticket, goes on with extensions and attempts, and is over
-- with one end. Its attempts are numbered on from the number that the ticket
-- was made with, without a gap or a repeat.
import Mathlib.Data.List.Induction
import RetryTickets.Proofs.Fates

namespace RetryTickets

/-- The name and the number of an attempt. -/
def Event.attempt? : Event → Option (TicketId × UInt64)
  | scheduled _ retry sequence _ _ => some (retry, sequence)
  | _ => none

/-- How a life ends. -/
inductive Ending where
  | canceled
  | redeemed

/-- The event of an end. -/
def Ending.event (id : TicketId) : Ending → Event
  | canceled => .canceled id
  | redeemed => .redeemed id

/-- A life of a ticket: the ticket it began with, what was logged while the ticket was there,
and its end, if it is over. -/
structure Life where
  made : Ticket
  course : List Event
  ending : Option Ending

namespace Life

/-- All events of a life, from the making on. -/
def events (id : TicketId) (life : Life) : List Event :=
  .created id :: life.course ++ (life.ending.map (Ending.event id)).toList

/-- The attempts of a life, in order. -/
def attempts (life : Life) : List (TicketId × UInt64) := life.course.filterMap Event.attempt?

/-- While it is there, a ticket is extended and attempted and nothing else, and each attempt has
the next number and the name that goes with it. -/
structure Regular (id : TicketId) (life : Life) : Prop where
  course : ∀ event ∈ life.course, (∃ timeout, event = .extended id timeout) ∨
    ∃ retry sequence donated donor, event = .scheduled id retry sequence donated donor
  numbered : ∀ k retry sequence, life.attempts[k]? = some (retry, sequence) →
    sequence.toNat = life.made.attempts.toNat + (k + 1) ∧ retry = id.retry sequence

/-- A life that has just begun. -/
def start (made : Ticket) : Life := ⟨made, [], none⟩

/-- A life that goes on. -/
def push (event : Event) (life : Life) : Life := { life with course := life.course ++ [event] }

/-- A life that is over. -/
def close (ending : Ending) (life : Life) : Life := { life with ending := some ending }

end Life

/-! ## Tickets that were made -/

/-- The ticket that an operation makes, if it does. -/
def Operation.made? (ledger : Ledger) (operation : Operation) : Option Ticket :=
  match operation, (operation.perform ledger).1 with
  | .create ticket, .made (.ok _) => some ticket
  | _, _ => none

namespace Ledger

/-- The tickets that some operations make, in order. -/
def madeBy : Ledger → List Operation → List Ticket
  | _, [] => []
  | ledger, operation :: rest =>
    (operation.made? ledger).toList ++ madeBy (operation.perform ledger).2 rest

/-- The tickets that were made under an id in the course of some operations on an empty ledger,
in order. -/
def madeUnder (id : TicketId) (operations : List Operation) : List Ticket :=
  (empty.madeBy operations).filter fun ticket => ticket.id = id

theorem madeBy_append_singleton (ledger : Ledger) (operations : List Operation)
    (operation : Operation) : ledger.madeBy (operations ++ [operation]) =
      ledger.madeBy operations ++ (operation.made?
        (operations.foldl (fun ledger operation => (operation.perform ledger).2) ledger)).toList := by
  induction operations generalizing ledger with
  | nil => simp [madeBy]
  | cons first rest ih => simp [madeBy, ih]

theorem madeUnder_append_singleton (id : TicketId) (operations : List Operation)
    (operation : Operation) : madeUnder id (operations ++ [operation]) = madeUnder id operations ++
      (operation.made? (after operations)).toList.filter fun ticket => ticket.id = id := by
  unfold madeUnder
  rw [madeBy_append_singleton, List.filter_append]
  rfl

end Ledger

theorem Operation.made?_create_of_new {ledger : Ledger} {ticket : Ticket}
    (h : ledger.registry.get? ticket.id = none) :
    (create ticket).made? ledger = some ticket := by
  unfold made?
  rw [perform_create_of_new h]

theorem Operation.made?_create_of_taken {ledger : Ledger} {ticket found : Ticket}
    (h : ledger.registry.get? ticket.id = some found) : (create ticket).made? ledger = none := by
  unfold made?
  rw [perform_create_of_taken h]

/-- An operation that leaves an id alone makes no ticket under it. -/
theorem Operation.made?_of_untouched {ledger : Ledger} {operation : Operation} {id : TicketId}
    (taken : ∀ ticket, operation = .create ticket → ticket.id = id →
      ledger.registry.get? id ≠ none) :
    ((operation.made? ledger).toList.filter fun ticket => ticket.id = id) = [] := by
  cases operation with
  | create ticket =>
    cases hget : ledger.registry.get? ticket.id with
    | none =>
      have hid : ticket.id ≠ id := fun hid => taken ticket rfl hid (hid ▸ hget)
      simp [made?_create_of_new hget, hid]
    | some found => simp [made?_create_of_taken hget]
  | call request context meter => rfl
  | complete key now => rfl

/-! ## The course of a life -/

namespace Life

variable {id : TicketId} {life : Life}

theorem events_push (h : life.ending = none) (event : Event) :
    (life.push event).events id = life.events id ++ [event] := by
  simp [events, push, h]

theorem events_close (h : life.ending = none) (ending : Ending) :
    (life.close ending).events id = life.events id ++ [ending.event id] := by
  simp [events, close, h]

@[simp] theorem made_push (event : Event) : (life.push event).made = life.made := rfl

theorem attempts_push (event : Event) :
    (life.push event).attempts = life.attempts ++ event.attempt?.toList := by
  cases h : event.attempt? <;> simp [attempts, push, h]

namespace Regular

theorem start (id : TicketId) (made : Ticket) : (Life.start made).Regular id :=
  ⟨by simp [Life.start], by simp [Life.start, attempts]⟩

theorem extend (h : life.Regular id) (timeout : UInt64) :
    (life.push (.extended id timeout)).Regular id := by
  refine ⟨fun event hevent => ?_, fun k retry sequence hk => ?_⟩
  · rcases List.mem_append.1 hevent with hevent | hevent
    · exact h.course event hevent
    · exact Or.inl ⟨timeout, List.mem_singleton.1 hevent⟩
  · rw [attempts_push] at hk
    exact h.numbered k retry sequence (by simpa [Event.attempt?] using hk)

/-- A life stays regular by an attempt that has the number behind its last one. -/
theorem attempt (h : life.Regular id) {sequence : UInt64}
    (hnext : sequence.toNat = life.made.attempts.toNat + (life.attempts.length + 1))
    (donated : UInt64) (donor : Address) :
    (life.push (.scheduled id (id.retry sequence) sequence donated donor)).Regular id := by
  refine ⟨fun event hevent => ?_, fun k retry number hk => ?_⟩
  · rcases List.mem_append.1 hevent with hevent | hevent
    · exact h.course event hevent
    · exact Or.inr ⟨_, _, _, _, List.mem_singleton.1 hevent⟩
  · simp only [attempts_push, Event.attempt?, Option.toList_some, List.getElem?_append,
      List.getElem?_singleton] at hk
    split at hk
    -- An attempt from before, or else the new one, which is the last.
    · exact h.numbered k retry number hk
    · split at hk
      · obtain ⟨rfl, rfl⟩ := Prod.mk.inj (Option.some.inj hk)
        have hk : k = life.attempts.length := by omega
        exact ⟨by rw [hk]; exact hnext, rfl⟩
      · cases hk

theorem close (h : life.Regular id) (ending : Ending) : (life.close ending).Regular id :=
  ⟨h.course, h.numbered⟩

end Regular

end Life

/-! ## All lives of a ticket -/

/-- A life goes on just as long as there is a ticket, and the ticket counts its attempts. -/
inductive Life.GoesOn : Option Ticket → Option Life → Prop where
  | absent : GoesOn none none
  | there (ticket : Ticket) (life : Life) (unended : life.ending = none)
      (counted : ticket.attempts.toNat = life.made.attempts.toNat + life.attempts.length) :
      GoesOn (some ticket) (some life)

/-- What is under an id, the events about it and the tickets made under it, told as lives that
are over and the one that goes on, if one does. -/
structure Chronicle (id : TicketId) (found : Option Ticket) (events : List Event)
    (made : List Ticket) (past : List Life) (present : Option Life) : Prop where
  told : events = (past ++ present.toList).flatMap (Life.events id)
  begun : made = (past ++ present.toList).map Life.made
  regular : ∀ life ∈ past ++ present.toList, life.Regular id
  finished : ∀ life ∈ past, life.ending ≠ none
  goesOn : Life.GoesOn found present

namespace Chronicle

variable {id : TicketId} {ticket : Ticket} {events : List Event} {made : List Ticket}
  {past : List Life} {life : Life}

theorem start (id : TicketId) : Chronicle id none [] [] [] none :=
  ⟨rfl, rfl, by simp, by simp, .absent⟩

theorem create (h : Chronicle id none events made past none) (ticket : Ticket) :
    Chronicle id (some ticket) (events ++ [.created id]) (made ++ [ticket]) past
      (some (.start ticket)) where
  told := by simp [h.told, Life.start, Life.events]
  begun := by simp [h.begun, Life.start]
  regular := by
    intro life hlife
    rcases List.mem_append.1 hlife with hlife | hlife
    · exact h.regular life (List.mem_append_left _ hlife)
    · rw [Option.toList_some, List.mem_singleton] at hlife
      exact hlife ▸ .start id ticket
  finished := h.finished
  goesOn := .there ticket _ rfl (by simp [Life.start, Life.attempts])

/-- The life that goes on, and what is known of it. -/
theorem going (h : Chronicle id (some ticket) events made past (some life)) :
    life.Regular id ∧ life.ending = none ∧
      ticket.attempts.toNat = life.made.attempts.toNat + life.attempts.length := by
  cases h.goesOn with
  | there _ _ unended counted => exact ⟨h.regular life (by simp), unended, counted⟩

theorem push (h : Chronicle id (some ticket) events made past (some life)) (ticket' : Ticket)
    {event : Event} (regular : (life.push event).Regular id)
    (counted : ticket'.attempts.toNat =
      (life.push event).made.attempts.toNat + (life.push event).attempts.length) :
    Chronicle id (some ticket') (events ++ [event]) made past (some (life.push event)) where
  told := by simp [h.told, Life.events_push h.going.2.1]
  begun := by simp [h.begun, Life.push]
  regular := by
    intro other hother
    rcases List.mem_append.1 hother with hother | hother
    · exact h.regular other (List.mem_append_left _ hother)
    · rw [Option.toList_some, List.mem_singleton] at hother
      exact hother ▸ regular
  finished := h.finished
  goesOn := .there ticket' _ h.going.2.1 counted

theorem close (h : Chronicle id (some ticket) events made past (some life)) (ending : Ending) :
    Chronicle id none (events ++ [ending.event id]) made (past ++ [life.close ending]) none where
  told := by simp [h.told, Life.events_close h.going.2.1]
  begun := by simp [h.begun, Life.close]
  regular := by
    intro other hother
    simp only [Option.toList_none, List.append_nil, List.mem_append, List.mem_singleton] at hother
    rcases hother with hother | rfl
    · exact h.regular other (List.mem_append_left _ hother)
    · exact h.going.1.close ending
  finished := by
    intro other hother
    rcases List.mem_append.1 hother with hother | hother
    · exact h.finished other hother
    · rw [List.mem_singleton.1 hother]
      exact fun hnone => nomatch hnone
  goesOn := .absent

end Chronicle

/-- One operation more goes on with the chronicle of an id. -/
theorem Chronicle.perform {ledger : Ledger} {operation : Operation} {id : TicketId}
    {found' : Option Ticket} {events logged : List Event} {made : List Ticket} {past : List Life}
    {present : Option Life}
    (h : Chronicle id (ledger.registry.get? id) events made past present)
    (fate : Fate id operation (ledger.registry.get? id) found' logged) :
    ∃ past' present', Chronicle id found' (events ++ logged)
      (made ++ (operation.made? ledger).toList.filter fun ticket => ticket.id = id)
      past' present' := by
  generalize hfound : ledger.registry.get? id = found at h fate
  -- What is found under the id tells whether a life goes on.
  cases fate with
  | untouched _ _ taken =>
    rw [Operation.made?_of_untouched (hfound ▸ taken), List.append_nil, List.append_nil]
    exact ⟨past, present, h⟩
  | created ticket named =>
    subst named
    rw [Operation.made?_create_of_new hfound]
    cases h.goesOn
    exact ⟨past, _, by simpa using h.create ticket⟩
  | canceled context meter ticket live entitled =>
    cases h.goesOn with
    | there _ life =>
      exact ⟨_, none, by simpa [Operation.made?, Ending.event] using h.close .canceled⟩
  | extended context meter ticket timeout live window =>
    cases h.goesOn with
    | there _ life _ counted =>
      have hpush := h.push { ticket with timeout := timeout }
        (h.going.1.extend timeout) (by simpa [Life.attempts_push, Event.attempt?] using counted)
      exact ⟨past, _, by simpa [Operation.made?] using hpush⟩
  | scheduled context meter ticket next donated live counted =>
    have hone := Ticket.attempts_of_nextAttempt? counted
    cases h.goesOn with
    | there _ life _ counted =>
      have hnext : next.attempts.toNat =
          life.made.attempts.toNat + (life.attempts.length + 1) := by omega
      have hpush := h.push next (h.going.1.attempt hnext donated context.caller)
        (by simpa [Life.attempts_push, Event.attempt?] using hnext)
      exact ⟨past, _, by simpa [Operation.made?] using hpush⟩
  | redeemed now ticket live =>
    cases h.goesOn with
    | there _ life =>
      exact ⟨_, none, by simpa [Operation.made?, Ending.event] using h.close .redeemed⟩

theorem chronicle_after (operations : List Operation) (id : TicketId) :
    ∃ past present, Chronicle id ((Ledger.after operations).registry.get? id)
      (Event.about id (Ledger.after operations).events) (Ledger.madeUnder id operations)
      past present := by
  induction operations using List.reverseRecOn with
  | nil => exact ⟨[], none, .start id⟩
  | append_singleton operations operation ih =>
    obtain ⟨past, present, h⟩ := ih
    obtain ⟨logged, fate, hlogged⟩ := perform_fate operation (.after operations) id
    rw [Ledger.after_append_singleton, Ledger.madeUnder_append_singleton, hlogged]
    exact h.perform fate

/-- The lives of a chronicle, of which only the last one can be without an end. -/
theorem Chronicle.ended {id : TicketId} {found : Option Ticket} {events : List Event}
    {made : List Ticket} {past : List Life} {present : Option Life}
    (h : Chronicle id found events made past present) :
    ∀ life ∈ (past ++ present.toList).dropLast, life.ending ≠ none := by
  intro life hlife
  cases present with
  | none => exact h.finished life ((List.dropLast_sublist past).subset (by simpa using hlife))
  | some last => exact h.finished life (by simpa using hlife)

/-! ## The law -/

/-- After any operations on an empty ledger, whichever of them went through, the events about a
ticket are lives, one after the other: one for each time that the ticket was made, in that order,
and only the last one can be without an end. Within a life nothing but extensions and attempts is
logged, and attempt number k has the number that the ticket was made with plus k, and the name
that goes with that number. -/
theorem the_log_tells_one_life_after_another (operations : List Operation) (id : TicketId) :
    ∃ lives : List Life,
      Event.about id (Ledger.after operations).events = lives.flatMap (Life.events id) ∧
      lives.map Life.made = Ledger.madeUnder id operations ∧
      (∀ life ∈ lives, life.Regular id) ∧
      ∀ life ∈ lives.dropLast, life.ending ≠ none := by
  obtain ⟨past, present, h⟩ := chronicle_after operations id
  exact ⟨past ++ present.toList, h.told, h.begun.symm, h.regular, h.ended⟩

end RetryTickets
