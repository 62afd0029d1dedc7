-- Tickets are independent. What an operation does hangs on what is under its
-- own id and on nothing else, and it leaves everything under other ids alone.
-- So operations on different tickets may come in either order.
import RetryTickets.Proofs.Agreement
import RetryTickets.Proofs.Fates

namespace RetryTickets

/-! ## An id by itself -/

namespace Registry

/-- Registries with the same ticket, or none, under an id. -/
def SameUnder (id : TicketId) (registry other : Registry) : Prop :=
  registry.get? id = other.get? id

variable {id : TicketId} {registry other : Registry}

theorem SameUnder.live? (h : registry.SameUnder id other) (now : UInt64) :
    registry.live? id now = other.live? id now := by
  unfold SameUnder at h
  unfold Registry.live?
  rw [h]

theorem SameUnder.existing (h : registry.SameUnder id other) :
    registry.existing id = other.existing id := by
  unfold SameUnder at h
  unfold Registry.existing
  rw [h]

theorem SameUnder.put (ticket : Ticket) :
    (registry.put id ticket).SameUnder id (other.put id ticket) := by
  simp [SameUnder]

theorem SameUnder.erase : (registry.erase id).SameUnder id (other.erase id) := by
  simp [SameUnder]

/-- All that registries do about an id hangs on what is under it. -/
theorem alikeAbout_sameUnder (id : TicketId) : AlikeAbout (SameUnder id) id where
  openTicket registry other now same := by
    simp only [TicketStore.openTicket, same.live?]
  sizeBytes registry other now same := by
    simp only [TicketStore.sizeBytes, same.live?]
  beneficiary registry other same := by
    simp only [TicketStore.beneficiary, same.existing]
  timeout registry other same := by
    simp only [TicketStore.timeout, same.existing]
  delete registry other same := by
    have hget : registry.get? id = other.get? id := same
    simp only [TicketStore.delete, delete, hget]
    cases other.get? id with
    | none => exact ⟨rfl, same⟩
    | some ticket => exact ⟨rfl, .erase⟩
  extendExpiry registry other now newTimeout lifetime same := by
    simp only [TicketStore.extendExpiry, extendExpiry, same.live?]
    cases Gas.plus? now lifetime with
    | none => exact ⟨rfl, same⟩
    | some latest =>
      cases other.live? id now with
      | none => exact ⟨rfl, same⟩
      | some ticket =>
        simp only
        split
        · exact ⟨rfl, same⟩
        · exact ⟨rfl, .put _⟩
  incrementAttempt registry other same := by
    have hget : registry.get? id = other.get? id := same
    simp only [TicketStore.incrementAttempt, incrementAttempt, hget]
    cases other.get? id with
    | none => exact ⟨rfl, same⟩
    | some ticket =>
      simp only
      cases ticket.nextAttempt? with
      | none => exact ⟨rfl, same⟩
      | some next => exact ⟨rfl, .put next⟩

end Registry

/-! ## One operation on two ledgers -/

namespace Operation

variable {operation : Operation} {ledger ledger' : Ledger}

/-- What an operation does on two ledgers that are the same under its id: it is answered the same,
logs the same and leaves the same there. -/
structure Matches (operation : Operation) (ledger ledger' : Ledger) : Prop where
  answer : (operation.perform ledger).1 = (operation.perform ledger').1
  logged : ∃ logged, (operation.perform ledger).2.events = ledger.events ++ logged ∧
    (operation.perform ledger').2.events = ledger'.events ++ logged
  kept : ∀ id, operation.ticket? = some id →
    (operation.perform ledger).2.registry.SameUnder id (operation.perform ledger').2.registry

theorem matches_create {ticket : Ticket}
    (h : ledger.registry.SameUnder ticket.id ledger'.registry) :
    (create ticket).Matches ledger ledger' := by
  cases hget : ledger.registry.get? ticket.id with
  | none =>
    have hget' : ledger'.registry.get? ticket.id = none := h.symm.trans hget
    constructor <;> rw [perform_create_of_new hget, perform_create_of_new hget']
    · exact ⟨_, rfl, rfl⟩
    · rintro _ ⟨⟩
      exact .put ticket
  | some found =>
    have hget' : ledger'.registry.get? ticket.id = some found := h.symm.trans hget
    constructor <;> rw [perform_create_of_taken hget, perform_create_of_taken hget']
    · exact ⟨[], by simp⟩
    · rintro _ ⟨⟩
      exact h

theorem matches_complete {id : TicketId} {now : UInt64}
    (h : ledger.registry.SameUnder id ledger'.registry) :
    (complete id now).Matches ledger ledger' := by
  cases hlive : ledger.registry.live? id now with
  | none =>
    have hlive' : ledger'.registry.live? id now = none := (h.live? now).symm.trans hlive
    constructor <;> rw [perform_complete_of_dead hlive, perform_complete_of_dead hlive']
    · exact ⟨[], by simp⟩
    · rintro _ ⟨⟩
      exact h
  | some ticket =>
    have hlive' : ledger'.registry.live? id now = some ticket := (h.live? now).symm.trans hlive
    constructor <;> rw [perform_complete_of_live hlive, perform_complete_of_live hlive']
    · exact ⟨_, rfl, rfl⟩
    · rintro _ ⟨⟩
      exact .erase

theorem matches_call {request : Call} {context : CallContext} {meter : Meter}
    (h : ∀ id, request.ticket? = some id → ledger.registry.SameUnder id ledger'.registry) :
    (call request context meter).Matches ledger ledger' := by
  -- A call that is about no ticket is alike on any two registries.
  obtain ⟨S, hS, halike, hsame⟩ : ∃ S : Registry → Registry → Prop,
      S ledger.registry ledger'.registry ∧ (∀ id, request.ticket? = some id → AlikeAbout S id) ∧
        ∀ registry other, S registry other →
          ∀ id, request.ticket? = some id → registry.SameUnder id other := by
    cases habout : request.ticket? with
    | none => exact ⟨fun _ _ => True, trivial, nofun, nofun⟩
    | some id =>
      refine ⟨Registry.SameUnder id, h id habout, ?_, ?_⟩
      · rintro _ ⟨⟩
        exact Registry.alikeAbout_sameUnder id
      · rintro _ _ same _ ⟨⟩
        exact same
  have paired : Scene.Paired S (trial ledger.registry meter) (trial ledger'.registry meter) :=
    ⟨hS, rfl, rfl⟩
  rcases Call.agree_act halike context _ _ paired with
    ⟨output, done, done', hdone, hdone', after⟩ | ⟨error, stopped, stopped', hstop, hstop', after⟩
  · constructor <;> rw [perform_call_of_ok hdone, perform_call_of_ok hdone']
    · rw [after.meter]
    · exact ⟨done.sink.events, rfl, by rw [after.sink]⟩
    · exact hsame _ _ after.store
  · constructor <;> rw [perform_call_of_error hstop, perform_call_of_error hstop']
    · rw [after.meter]
    · exact ⟨[], by simp⟩
    · exact h

/-- What an operation does hangs on what is under its own id. -/
theorem perform_matches
    (h : ∀ id, operation.ticket? = some id → ledger.registry.SameUnder id ledger'.registry) :
    operation.Matches ledger ledger' := by
  cases operation with
  | create ticket => exact matches_create (h ticket.id rfl)
  | call request context meter => exact matches_call h
  | complete id now => exact matches_complete (h id rfl)

/-- What an operation is not about it leaves as it was. -/
theorem perform_beside {id : TicketId} (h : operation.ticket? ≠ some id) :
    (operation.perform ledger).2.registry.SameUnder id ledger.registry := by
  obtain ⟨_, fate, _⟩ := perform_fate operation ledger id
  exact (fate.of_other h).1

/-! ## Two operations -/

/-- Operations that are not about the same ticket. -/
def Apart (a b : Operation) : Prop := ∀ id, a.ticket? = some id → b.ticket? ≠ some id

theorem Apart.symm {a b : Operation} (h : a.Apart b) : b.Apart a :=
  fun id hb ha => h id ha hb

variable {a b : Operation}

/-- Behind an operation on another ticket, an operation does what it would do without it. -/
theorem matches_behind (h : a.Apart b) (ledger : Ledger) :
    b.Matches (a.perform ledger).2 ledger :=
  perform_matches fun id hb => perform_beside (h.symm id hb)

/-- Of two operations on different tickets, each leaves under its id what it leaves alone. -/
theorem get?_both (h : a.Apart b) (ledger : Ledger) (id : TicketId) :
    (b.perform (a.perform ledger).2).2.registry.get? id =
      if b.ticket? = some id then (b.perform ledger).2.registry.get? id
      else (a.perform ledger).2.registry.get? id := by
  split
  · rename_i hb
    exact (matches_behind h ledger).kept id hb
  · rename_i hb
    exact perform_beside hb

theorem registry_both (h : a.Apart b) (ledger : Ledger) :
    (b.perform (a.perform ledger).2).2.registry = (a.perform (b.perform ledger).2).2.registry := by
  apply Registry.ext_get?
  intro id
  rw [get?_both h, get?_both h.symm]
  by_cases hb : b.ticket? = some id
  · rw [if_pos hb, if_neg (h.symm id hb)]
  · rw [if_neg hb]
    by_cases ha : a.ticket? = some id
    · rw [if_pos ha]
    · rw [if_neg ha]
      have hsame : (a.perform ledger).2.registry.get? id = ledger.registry.get? id :=
        perform_beside ha
      have hsame' : (b.perform ledger).2.registry.get? id = ledger.registry.get? id :=
        perform_beside hb
      rw [hsame, hsame']

end Operation

/-! ## The law -/

/-- Operations on different tickets come to the same in either order: each is answered the same,
with the same gas left, the tickets are the same, and the log tells the same of each. -/
theorem operations_on_different_tickets_commute (ledger : Ledger) (a b : Operation)
    (h : a.Apart b) :
    let (answerA, afterA) := a.perform ledger
    let (answerB, afterB) := b.perform ledger
    let (answerB', afterAB) := b.perform afterA
    let (answerA', afterBA) := a.perform afterB
    answerA' = answerA ∧ answerB' = answerB ∧ afterAB.registry = afterBA.registry ∧
      ∃ toldA toldB, afterA.events = ledger.events ++ toldA ∧
        afterB.events = ledger.events ++ toldB ∧
        afterAB.events = ledger.events ++ toldA ++ toldB ∧
        afterBA.events = ledger.events ++ toldB ++ toldA := by
  have hb := Operation.matches_behind h ledger
  have ha := Operation.matches_behind h.symm ledger
  obtain ⟨toldB, hAB, hB⟩ := hb.logged
  obtain ⟨toldA, hBA, hA⟩ := ha.logged
  rw [hA] at hAB
  rw [hB] at hBA
  exact ⟨ha.answer, hb.answer, Operation.registry_both h ledger, toldA, toldB, hA, hB, hAB, hBA⟩

theorem an_end_and_a_making_commute :
    let ledger : Ledger := ⟨Registry.empty.put .zero .plain, []⟩
    let ending := Operation.complete .zero 1
    let making := Operation.create { Ticket.plain with id := ⟨List.replicate 32 1, rfl⟩ }
    ending.Apart making ∧
      (making.perform (ending.perform ledger).2).2.registry =
        (ending.perform (making.perform ledger).2).2.registry ∧
      (ending.perform (making.perform ledger).2).1 = .ended (.ok ()) := by
  intro ledger ending making
  have hapart : ending.Apart making := by
    rintro _ ⟨⟩ hboth
    exact absurd hboth (by decide)
  obtain ⟨hending, _, hregistry, _⟩ :=
    operations_on_different_tickets_commute ledger ending making hapart
  exact ⟨hapart, hregistry, hending⟩

end RetryTickets
