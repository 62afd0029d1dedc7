-- The names of attempts. A name is a hash of the ticket's id and the number of
-- the attempt, and the number is counted in the ticket. So two attempts with
-- one name are attempts at one ticket under one number, and the ticket was
-- made again between them.
import RetryTickets.Proofs.Lives
import RetryTickets.Proofs.Records

namespace RetryTickets

/-! ## What is hashed -/

theorem Bytes.big_inj {width a b : Nat} (ha : a < 256 ^ width) (hb : b < 256 ^ width)
    (h : Bytes.big width a = Bytes.big width b) : a = b := by
  have hlittle : Bytes.little width a = Bytes.little width b := List.reverse_inj.1 h
  rw [← ofLittle_little_of_lt ha, hlittle, ofLittle_little_of_lt hb]

/-- The message of 64 bytes that is hashed for the name of an attempt. -/
def TicketId.retryMessage (id : TicketId) (sequence : UInt64) : Bytes :=
  id.toBytes ++ List.replicate 24 0 ++ Bytes.big 8 sequence.toNat

theorem TicketId.retry_eq (id : TicketId) (sequence : UInt64) :
    id.retry sequence = Keccak256.digest (id.retryMessage sequence) := rfl

/-- A message tells what it was made from. -/
theorem TicketId.retryMessage_inj {id id' : TicketId} {sequence sequence' : UInt64}
    (h : id.retryMessage sequence = id'.retryMessage sequence') :
    id = id' ∧ sequence = sequence' := by
  have hlength : (id.toBytes ++ List.replicate 24 (0 : UInt8)).length =
      (id'.toBytes ++ List.replicate 24 0).length := by simp [id.length_eq, id'.length_eq]
  obtain ⟨hfront, hnumber⟩ := List.append_inj h hlength
  refine ⟨FixedBytes.ext_toBytes (List.append_cancel_right hfront), ?_⟩
  exact UInt64.toNat_inj.1 (Bytes.big_inj sequence.toNat_lt sequence'.toNat_lt hnumber)

/-- No two of these messages have the same digest, unless they are the same. -/
def Keccak256.NoCollision (messages : List Bytes) : Prop :=
  ∀ a ∈ messages, ∀ b ∈ messages, digest a = digest b → a = b

/-- The message that was hashed for an event, if it is an attempt. -/
def Event.hashed? : Event → Option Bytes
  | scheduled id _ sequence _ _ => some (id.retryMessage sequence)
  | _ => none

/-! ## Attempts within a life -/

namespace Life

variable {id : TicketId} {life : Life}

/-- The attempts of a life are all the attempts among its events. -/
theorem filterMap_events (id : TicketId) (life : Life) :
    (life.events id).filterMap Event.attempt? = life.attempts := by
  have hending : (life.ending.map (Ending.event id)).toList.filterMap Event.attempt? = [] := by
    rcases life.ending with _ | _ | _ <;> rfl
  unfold events attempts
  rw [List.filterMap_append, hending, List.append_nil, List.filterMap_cons_none rfl]

/-- A later attempt of a life has a larger number. -/
theorem Regular.rising (h : life.Regular id) {front between back : List Event} {a b : Event}
    {retry retry' : TicketId} {sequence sequence' : UInt64}
    (hsplit : life.events id = front ++ a :: between ++ b :: back)
    (ha : a.attempt? = some (retry, sequence)) (hb : b.attempt? = some (retry', sequence')) :
    sequence.toNat < sequence'.toNat := by
  have hattempts : life.attempts = front.filterMap Event.attempt? ++ (retry, sequence) ::
      between.filterMap Event.attempt? ++ (retry', sequence') :: back.filterMap Event.attempt? := by
    rw [← filterMap_events id, hsplit]
    simp [ha, hb]
  have hfirst := h.numbered (front.filterMap Event.attempt?).length retry sequence
    (by rw [hattempts]; simp)
  have hsecond := h.numbered
    (front.filterMap Event.attempt? ++ (retry, sequence) :: between.filterMap Event.attempt?).length
    retry' sequence' (by rw [hattempts]; simp)
  simp only [List.length_append, List.length_cons] at hsecond
  omega

end Life

/-- Lives begin with the making of the ticket. -/
theorem eq_created_of_flatMap {id : TicketId} {lives : List Life} {event : Event}
    {later : List Event} (h : lives.flatMap (Life.events id) = event :: later) :
    event = .created id := by
  cases lives with
  | nil => simp at h
  | cons life rest =>
    rw [List.flatMap_cons] at h
    exact (List.cons.inj h).1.symm

/-- Two events of a ticket lie within one life if the ticket was not made between them. -/
theorem within_one_life {id : TicketId} {lives : List Life} {front between back : List Event}
    {a b : Event} (hsplit : lives.flatMap (Life.events id) = front ++ a :: between ++ b :: back)
    (hb : b ≠ .created id) (hbetween : .created id ∉ between) :
    ∃ life ∈ lives, ∃ front' back', life.events id = front' ++ a :: between ++ b :: back' := by
  induction lives generalizing front with
  | nil => simp at hsplit
  | cons first rest ih =>
    have hrest : ∀ skipped, rest.flatMap (Life.events id) = skipped ++ a :: between ++ b :: back →
        ∃ life ∈ first :: rest, ∃ front' back',
          life.events id = front' ++ a :: between ++ b :: back' := by
      intro skipped h
      obtain ⟨life, hlife, hsplit⟩ := ih h
      exact ⟨life, List.mem_cons_of_mem first hlife, hsplit⟩
    rw [List.flatMap_cons, List.append_assoc, List.cons_append, List.append_eq_append_iff] at hsplit
    rcases hsplit with ⟨skipped, rfl, hlater⟩ | ⟨here, hfirst, hlater⟩
    · exact hrest skipped (by simpa using hlater)
    rcases List.cons_eq_append_iff.1 hlater with ⟨rfl, hnext⟩ | ⟨tail, rfl, hnext⟩
    · exact hrest [] hnext
    -- The first event lies in this life. A second one behind this life has a making before it.
    rcases List.append_eq_append_iff.1 hnext with ⟨behind, rfl, hend⟩ | ⟨missing, rfl, hend⟩
    · rcases List.cons_eq_append_iff.1 hend with ⟨rfl, hend⟩ | ⟨behind, rfl, hend⟩
      · exact absurd (eq_created_of_flatMap hend.symm) hb
      · exact ⟨first, List.mem_cons_self, front, behind, by simpa using hfirst⟩
    · cases missing with
      | nil => exact absurd (eq_created_of_flatMap hend) hb
      | cons made missing =>
        rw [eq_created_of_flatMap hend] at hbetween
        simp at hbetween

/-! ## Attempts in a log -/

/-- Every attempt in the log has the name that goes with its number. -/
theorem attempt_named {operations : List Operation} {id retry : TicketId}
    {sequence donated : UInt64} {donor : Address}
    (h : .scheduled id retry sequence donated donor ∈ (Ledger.after operations).events) :
    retry = id.retry sequence := by
  obtain ⟨past, present, hchronicle⟩ := chronicle_after operations id
  have habout : _ ∈ Event.about id _ := Event.mem_about.2 ⟨h, rfl⟩
  rw [hchronicle.told, List.mem_flatMap] at habout
  obtain ⟨life, hlife, hevent⟩ := habout
  have hattempt : (retry, sequence) ∈ life.attempts := by
    rw [← Life.filterMap_events id]
    exact List.mem_filterMap.2 ⟨_, hevent, rfl⟩
  obtain ⟨k, hk⟩ := List.mem_iff_getElem?.1 hattempt
  exact ((hchronicle.regular life hlife).numbered k retry sequence hk).2

/-- Between two attempts at a ticket of which the second has no larger number, the ticket was made
again. -/
theorem made_between {operations : List Operation} {id retry retry' : TicketId}
    {sequence sequence' donated donated' : UInt64} {donor donor' : Address}
    {front between back : List Event}
    (hsplit : (Ledger.after operations).events = front ++
      .scheduled id retry sequence donated donor :: between ++
        .scheduled id retry' sequence' donated' donor' :: back)
    (hle : sequence' ≤ sequence) : .created id ∈ between := by
  by_contra hbetween
  obtain ⟨past, present, h⟩ := chronicle_after operations id
  have hsplit : (past ++ present.toList).flatMap (Life.events id) = Event.about id front ++
      .scheduled id retry sequence donated donor :: Event.about id between ++
        .scheduled id retry' sequence' donated' donor' :: Event.about id back := by
    rw [← h.told, hsplit]
    simp [Event.about, Event.ticket]
  obtain ⟨life, hlife, front', back', hevents⟩ := within_one_life hsplit (by simp)
    fun hmade => hbetween (Event.mem_about.1 hmade).1
  have hrising := (h.regular life hlife).rising hevents rfl rfl
  exact absurd hrising (Nat.not_lt.2 hle)

/-! ## The law -/

/-- As long as the hash does not collide on what was hashed for the attempts of a log, two of them
have one name only if they are attempts at one ticket under one number, and the ticket was made
again between them. -/
theorem attempts_share_a_name_only_across_lives (operations : List Operation)
    (hash : Keccak256.NoCollision ((Ledger.after operations).events.filterMap Event.hashed?))
    (front between back : List Event) (id id' retry : TicketId)
    (sequence sequence' donated donated' : UInt64) (donor donor' : Address)
    (hsplit : (Ledger.after operations).events = front ++
      .scheduled id retry sequence donated donor :: between ++
        .scheduled id' retry sequence' donated' donor' :: back) :
    id' = id ∧ sequence' = sequence ∧ .created id ∈ between := by
  have hfirst : .scheduled id retry sequence donated donor ∈ (Ledger.after operations).events := by
    simp [hsplit]
  have hsecond : .scheduled id' retry sequence' donated' donor' ∈
      (Ledger.after operations).events := by simp [hsplit]
  have hname : id.retry sequence = id'.retry sequence' :=
    (attempt_named hfirst).symm.trans (attempt_named hsecond)
  rw [TicketId.retry_eq, TicketId.retry_eq] at hname
  have hmessage := hash _ (List.mem_filterMap.2 ⟨_, hfirst, rfl⟩) _
    (List.mem_filterMap.2 ⟨_, hsecond, rfl⟩) hname
  obtain ⟨rfl, rfl⟩ := TicketId.retryMessage_inj hmessage
  exact ⟨rfl, rfl, made_between hsplit (UInt64.le_refl _)⟩

/-! ## A ticket made twice -/

/-- A ticket is made, attempted and canceled, and made and attempted again. -/
def Operation.twoLives : List Operation :=
  [.create .plain, .call (.redeem .zero) ⟨.zero, 0⟩ (.ofLimit 10000),
    .call (.cancel .zero) ⟨.zero, 1⟩ (.ofLimit 10000), .create .plain,
    .call (.redeem .zero) ⟨.zero, 2⟩ (.ofLimit 10000)]

/-- The attempt that both lives begin with. -/
def Event.firstAttempt : Event :=
  .scheduled .zero (TicketId.retry .zero 1) 1 9650 .zero

theorem events_of_twoLives : (Ledger.after Operation.twoLives).events =
    [.created .zero, .firstAttempt, .canceled .zero, .created .zero, .firstAttempt] := rfl

/-- Nothing collides in these two lives, as both hash the same. -/
theorem noCollision_twoLives : Keccak256.NoCollision
    ((Ledger.after Operation.twoLives).events.filterMap Event.hashed?) := by
  intro a ha b hb _
  rw [events_of_twoLives] at ha hb
  simp only [Event.firstAttempt, List.filterMap_cons, Event.hashed?, List.filterMap_nil,
    List.mem_cons, List.not_mem_nil, or_false, or_self] at ha hb
  rw [ha, hb]

theorem the_ticket_was_made_between_its_two_attempts :
    Keccak256.NoCollision ((Ledger.after Operation.twoLives).events.filterMap Event.hashed?) ∧
      (Ledger.after Operation.twoLives).events = [.created .zero] ++
        .scheduled .zero (TicketId.retry .zero 1) 1 9650 .zero ::
          [.canceled .zero, .created .zero] ++
            .scheduled .zero (TicketId.retry .zero 1) 1 9650 .zero :: [] ∧
      .created .zero ∈ [Event.canceled .zero, .created .zero] :=
  ⟨noCollision_twoLives, events_of_twoLives,
    (attempts_share_a_name_only_across_lives Operation.twoLives noCollision_twoLives
      [.created .zero] [.canceled .zero, .created .zero] [] .zero .zero _ 1 1 9650 9650 .zero .zero
      events_of_twoLives).2.2⟩

/-- A ticket that was made again gets the name of its first attempt a second time, although no
ticket was made with attempts behind it and the hash does not collide. -/
theorem a_second_life_repeats_a_name :
    (∀ ticket, .create ticket ∈ Operation.twoLives → ticket.attempts = 0) ∧
      Keccak256.NoCollision ((Ledger.after Operation.twoLives).events.filterMap Event.hashed?) ∧
      ¬ (((Ledger.after Operation.twoLives).events.filterMap Event.attempt?).map Prod.fst).Nodup := by
  refine ⟨?_, noCollision_twoLives, ?_⟩
  · intro ticket hticket
    simp only [Operation.twoLives, List.mem_cons, Operation.create.injEq, List.not_mem_nil,
      or_false, reduceCtorEq, false_or, or_self] at hticket
    rw [hticket]
    rfl
  · have hnames : ((Ledger.after Operation.twoLives).events.filterMap Event.attempt?).map Prod.fst =
        [TicketId.retry .zero 1, TicketId.retry .zero 1] := by
      rw [events_of_twoLives]
      rfl
    rw [hnames]
    exact fun hnodup => absurd List.mem_cons_self (List.nodup_cons.1 hnodup).1

end RetryTickets
