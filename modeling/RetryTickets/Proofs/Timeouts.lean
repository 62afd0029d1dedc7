-- Timeouts and the clock. A keepalive puts a lifetime from now in the place of
-- whatever timeout there was. As long as time does not go back, and every ticket
-- is made with a lifetime from then, no timeout lies further ahead than that, so
-- a keepalive never takes time away.
import RetryTickets.Proofs.Entitlement
import RetryTickets.Proofs.Refusals

namespace RetryTickets

/-! ## Runs along a clock -/

/-- An operation and the time at which it comes. -/
structure Timed where
  now : UInt64
  operation : Operation

namespace Timed

variable {κ : Type}

/-- On a desk it is performed at that time, and a ticket that it makes there ends a week from
then. -/
def Punctual (timed : Timed) (desk : Desk κ) : Prop :=
  match timed.operation with
  | .create ticket =>
    desk.registry.get? ticket.id = none → ticket.timeout.toNat = timed.now.toNat + 604800
  | .call _ context _ => context.now = timed.now
  | .complete _ now => now = timed.now

/-- The desk behind a run on an empty one. -/
def deskAfter [EventSink κ] (sink : κ) (run : List Timed) : Desk κ :=
  Desk.after (run.map Timed.operation) ⟨.empty, sink⟩

theorem deskAfter_append_singleton [EventSink κ] (sink : κ) (run : List Timed) (timed : Timed) :
    deskAfter sink (run ++ [timed]) = (timed.operation.performAt (deskAfter sink run)).2 := by
  unfold deskAfter
  rw [List.map_append, List.map_singleton, Desk.after_append_singleton]

/-- Operations that each come at their time, none of them earlier than one before it. -/
structure Forward [EventSink κ] (sink : κ) (run : List Timed) : Prop where
  punctual : ∀ before timed later, run = before ++ timed :: later →
    timed.Punctual (deskAfter sink before)
  rising : run.Pairwise fun earlier later => earlier.now ≤ later.now

theorem Forward.before [EventSink κ] {sink : κ} {before later : List Timed} {timed : Timed}
    (h : Forward sink (before ++ timed :: later)) :
    Forward sink before ∧ timed.Punctual (deskAfter sink before) ∧
      ∀ earlier ∈ before, earlier.now ≤ timed.now := by
  obtain ⟨hrising, _, hlast⟩ := List.pairwise_append.1 h.rising
  refine ⟨⟨fun first middle rest hbefore => ?_, hrising⟩, h.punctual before timed later rfl,
    fun earlier hearlier => hlast earlier hearlier timed List.mem_cons_self⟩
  refine h.punctual first middle (rest ++ timed :: later) ?_
  rw [hbefore, List.append_assoc, List.cons_append]

end Timed

namespace Desk

variable {κ : Type} {desk : Desk κ} {now later : UInt64}

/-- No timeout lies further ahead than a week from now. -/
def EndsWithin (desk : Desk κ) (now : UInt64) : Prop :=
  ∀ id ticket, desk.registry.get? id = some ticket → ticket.timeout.toNat ≤ now.toNat + 604800

theorem endsWithin_empty (sink : κ) (now : UInt64) : EndsWithin ⟨.empty, sink⟩ now :=
  fun _ _ h => nomatch h

theorem EndsWithin.mono (h : desk.EndsWithin now) (hle : now ≤ later) : desk.EndsWithin later :=
  fun id ticket hget =>
    Nat.le_trans (h id ticket hget) (Nat.add_le_add_right (UInt64.le_iff_toNat_le.1 hle) _)

/-- No operation that comes at its time moves a timeout further ahead. -/
theorem EndsWithin.performAt [EventSink κ] {timed : Timed} (h : desk.EndsWithin timed.now)
    (hpunctual : timed.Punctual desk) :
    (timed.operation.performAt desk).2.EndsWithin timed.now := by
  intro id ticket hget
  obtain ⟨now, operation⟩ := timed
  obtain ⟨logged, fate⟩ := operation.performAt_fate desk id
  rw [hget] at fate
  generalize hfound : desk.registry.get? id = found at fate
  cases fate with
  | untouched => exact h id ticket hfound
  | created ticket named => exact Nat.le_of_eq (hpunctual (named.symm ▸ hfound))
  | extended context meter ticket timeout live window =>
    have hnow : context.now = now := hpunctual
    exact Nat.le_of_eq (hnow ▸ Ticket.toNat_of_window window)
  | scheduled context meter ticket next donated live counted =>
    obtain ⟨_, rfl⟩ := Ticket.nextAttempt?_eq_some_iff.1 counted
    exact h id ticket hfound

/-- Nor does any run. -/
theorem endsWithin_after [EventSink κ] {sink : κ} {run : List Timed} (h : Timed.Forward sink run)
    (hnow : ∀ timed ∈ run, timed.now ≤ now) : (Timed.deskAfter sink run).EndsWithin now := by
  induction run using List.reverseRecOn generalizing now with
  | nil => exact endsWithin_empty sink now
  | append_singleton run timed ih =>
    obtain ⟨hforward, hpunctual, hearlier⟩ := h.before
    have hlast := hnow timed (List.mem_append_right _ List.mem_cons_self)
    rw [Timed.deskAfter_append_singleton]
    exact ((ih hforward hearlier).performAt hpunctual).mono hlast

end Desk

/-! ## Keepalives -/

/-- What a keepalive at some time does to a ticket, and with what it is refused. -/
structure Prolongs {κ : Type} (id : TicketId) (now : UInt64) (desk : Desk κ) (answer : Answer)
    (after : Desk κ) : Prop where
  /-- If it goes through, the timeout is no earlier than before, and later than now. -/
  ahead : answer.outcome = .ok () → ∃ ticket timeout, desk.registry.get? id = some ticket ∧
    after.registry.get? id = some { ticket with timeout := timeout } ∧ ticket.timeout ≤ timeout ∧
      now < timeout
  /-- It is never told that this is too far. -/
  allowed : ∀ fault, answer.outcome = .error (.store fault) →
    fault.message ≠ "timeout too far into the future" ∧ fault.message ≠ "timeout limit overflows"

theorem prolongs_performAt {κ : Type} [EventSink κ] {desk : Desk κ} {context : CallContext}
    (h : desk.EndsWithin context.now) (id : TicketId) (meter : Meter) :
    Prolongs id context.now desk ((Operation.call (.keepalive id) context meter).performAt desk).1
      ((Operation.call (.keepalive id) context meter).performAt desk).2 := by
  cases hact : (Call.keepalive id).act context (Operation.trial desk.registry meter) with
  | ok output done =>
    rw [Operation.performAt_call_of_ok hact]
    refine ⟨fun _ => ?_, fun fault hfault => nomatch hfault⟩
    cases Call.answers_of_act hact with
    | @keepalive _ time _ hkeepalive =>
      obtain ⟨ticket, hlive, hwindow, hstore, _⟩ := Controller.kept hkeepalive
      obtain ⟨hget, _⟩ := Registry.live?_eq_some_iff.1 hlive
      have htime := Ticket.toNat_of_window hwindow
      refine ⟨ticket, time, hget, ?_, ?_, ?_⟩
      · show done.store.get? id = _
        rw [hstore, Registry.get?_put, if_pos rfl]
      · rw [UInt64.le_iff_toNat_le, htime]
        exact h id ticket hget
      · rw [UInt64.lt_iff_toNat_lt, htime]
        exact Nat.lt_add_of_pos_right (by decide)
  | error error stopped =>
    rw [Operation.performAt_call_of_error hact]
    refine ⟨nofun, fun fault hfault => ?_⟩
    cases hfault
    have hrefuses := Action.refuses_bind (Controller.keepalive_refuses context id)
      fun time => Action.refuses_pure (Output.timestamp time)
    cases hrefuses _ _ _ hact with
    | timeoutOverflow => decide

/-! ## The law -/

/-- In a run along the clock, no timeout ever lies further ahead than a week. So every keepalive
that goes through puts an end to the ticket that is no earlier than the one before, and none is
refused because the end would lie too far ahead. -/
theorem no_keepalive_takes_time_away {κ : Type} [EventSink κ] (sink : κ) (run : List Timed)
    (h : Timed.Forward sink run) :
    ∀ before timed later, run = before ++ timed :: later →
      let desk := Timed.deskAfter sink before
      let result := timed.operation.performAt desk
      result.2.EndsWithin timed.now ∧
        ∀ id context meter, timed.operation = .call (.keepalive id) context meter →
          Prolongs id timed.now desk result.1 result.2 := by
  rintro before timed later rfl
  obtain ⟨hforward, hpunctual, hearlier⟩ := h.before
  have hbefore := Desk.endsWithin_after hforward hearlier
  refine ⟨hbefore.performAt hpunctual, fun id context meter hkeepalive => ?_⟩
  obtain ⟨now, operation⟩ := timed
  cases hkeepalive
  have hnow : context.now = now := hpunctual
  rw [← hnow] at hbefore ⊢
  exact prolongs_performAt hbefore id meter

/-- A ticket that was made at 5 and is kept at 7. -/
theorem a_ticket_is_kept_two_seconds_longer :
    let making : Timed := ⟨5, .create { Ticket.plain with timeout := 604805 }⟩
    let keeping : Timed := ⟨7, .call (.keepalive .zero) ⟨.zero, 7⟩ (.ofLimit 10000)⟩
    let desk := Timed.deskAfter EventLog.empty [making]
    let result := keeping.operation.performAt desk
    Timed.Forward EventLog.empty [making, keeping] ∧ result.1.outcome = .ok () ∧
      result.2.registry.get? .zero = some { Ticket.plain with timeout := 604807 } ∧
      result.2.EndsWithin 7 ∧ Prolongs .zero 7 desk result.1 result.2 := by
  intro making keeping desk result
  have hforward : Timed.Forward EventLog.empty [making, keeping] := by
    refine ⟨fun before timed later hrun => ?_, List.pairwise_pair.2 (by decide)⟩
    rcases before with _ | ⟨first, _ | ⟨second, before⟩⟩
    · cases hrun
      exact fun _ => (by decide : (604805 : UInt64).toNat = (5 : UInt64).toNat + 604800)
    · cases hrun
      rfl
    · simp at hrun
  obtain ⟨hends, hprolongs⟩ :=
    no_keepalive_takes_time_away EventLog.empty [making, keeping] hforward [making] keeping [] rfl
  refine ⟨hforward, ?_, ?_, hends, hprolongs .zero _ _ rfl⟩
  · decide
  · decide

end RetryTickets
