-- Redeems on any store, whose answers need not fit together, and with any sink
-- that does not speak of gas. What is read is paid for before anything else is
-- known of the ticket, and what an attempt leaves is the price of its answer.
import RetryTickets.Bench.Switches
import RetryTickets.Proofs.Payments
import RetryTickets.Proofs.Redeems

namespace RetryTickets

theorem Bench.SwitchedSink.neverShort : EventSink.NeverShort Bench.SwitchedSink := by
  rintro event ⟨log, mode⟩ error h
  cases mode with
  | log => cases h
  | forget => cases h
  | refuse =>
    cases h
    exact fun _ => nofun

namespace Action

variable {σ κ : Type} [EventSink κ]

theorem offer_taken_iff {s t : Scene σ κ} {event : Event} {u : Unit} :
    offer event s = .ok u t ↔
      ∃ sink, EventSink.emit event s.sink = (.ok (), sink) ∧ t = { s with sink := sink } := by
  unfold offer
  rcases EventSink.emit event s.sink with ⟨error | u, sink⟩
  · simp
  · simp [eq_comm]

end Action

namespace Controller

open RetryTickets.Action

/-! ## The donation -/

section AnySink

variable {σ κ : Type} {s t : Scene σ κ} {context : CallContext} {id retry : TicketId}
  {sequence : UInt64}

/-- What is done behind the event of an attempt. -/
def giveRest (id : TicketId) (sequence : UInt64) : Action σ κ TicketId := do
  let left ← gasLeft
  if left < Gas.returnEncoding then
    charge Gas.returnEncoding
  charge (left - Gas.returnEncoding)
  tell (.scheduled sequence id (id.retry sequence))
  return id.retry sequence

theorem giveRest_ok (h : giveRest id sequence s = .ok retry t) :
    retry = id.retry sequence ∧ t.store = s.store ∧ t.sink = s.sink ∧ t.meter.remaining = 96 := by
  unfold giveRest at h
  rw [bind_of_ok (gasLeft_ok_iff.2 ⟨rfl, rfl⟩)] at h
  by_cases hshort : s.meter.remaining < Gas.returnEncoding
  · rw [if_pos hshort] at h
    cases h.symm.trans (bind_of_error (charge_of_lt hshort))
  · have henough := UInt64.not_lt.1 hshort
    rw [if_neg hshort] at h
    cases h.symm.trans (bind_of_ok (charge_of_le (UInt64.sub_le henough)))
    have hkept : s.meter.remaining - (s.meter.remaining - Gas.returnEncoding) = 96 := by
      rw [Gas.returnEncoding_eq]
      grind
    exact ⟨rfl, rfl, rfl, hkept⟩

variable [EventSink κ]

theorem donate_eq (context : CallContext) (id : TicketId) (sequence : UInt64) :
    (donate context id sequence : Action σ κ TicketId) = (do
      let donated ← gasLeft
      Action.emit (.scheduled id (id.retry sequence) sequence donated context.caller)
      giveRest id sequence) := rfl

/-- An attempt that goes through is told to the sink with all that was left, and leaves the price
of the answer. -/
theorem donate_ok (h : donate context id sequence s = .ok retry t) :
    retry = id.retry sequence ∧ t.store = s.store ∧ t.meter.remaining = 96 ∧
      EventSink.emit (.scheduled id retry sequence s.meter.remaining context.caller) s.sink =
        (.ok (), t.sink) := by
  rw [donate_eq, bind_of_ok (gasLeft_ok_iff.2 ⟨rfl, rfl⟩)] at h
  obtain ⟨_, told, htold, hrest⟩ := bind_ok_iff.1 h
  obtain ⟨_, _, hcharge, hoffer⟩ := bind_ok_iff.1 htold
  obtain ⟨_, rfl⟩ := charge_ok_iff.1 hcharge
  obtain ⟨sink, htaken, rfl⟩ := offer_taken_iff.1 hoffer
  obtain ⟨rfl, hstore, hsink, hkept⟩ := giveRest_ok hrest
  exact ⟨rfl, hstore, hkept, hsink ▸ htaken⟩

/-- What an attempt is given is there, so that only the price of the answer can be too much. -/
theorem pays_donate (never : EventSink.NeverShort κ) :
    (donate context id sequence : Action σ κ TicketId).Pays
      [EventKind.scheduled.gasCost, Gas.returnEncoding] s := by
  rw [donate_eq]
  refine quiet_gasLeft.pays_bind fun donated _ _ => ?_
  refine pays_emit_bind never rfl fun _ _ => ?_
  refine quiet_gasLeft.pays_bind fun left t hleft => ?_
  obtain ⟨rfl, rfl⟩ := gasLeft_ok_iff.1 hleft
  apply pays_ite
  · intro hshort
    refine pays_charge_bind fun hpaid => ?_
    exact absurd hpaid (UInt64.not_le.2 hshort)
  · intro henough
    have hgiven : t.meter.remaining - Gas.returnEncoding ≤ t.meter.remaining :=
      UInt64.sub_le (UInt64.not_lt.1 henough)
    exact pays_enough_bind hgiven (refuses_bind (refuses_tell _) fun _ => refuses_pure _)

end AnySink

/-! ## The way to the donation -/

section AnyStore

variable {σ κ : Type} [TicketStore σ] {s : Scene σ κ} {context : CallContext} {id : TicketId}
  {now size cost sequence : UInt64} {error : Error} {ticket : Ticket} {store : σ}

theorem requireLive_of_refused (h : TicketStore.openTicket s.store id now = .error error) :
    requireLive id now s = .error error s := by
  refine bind_of_error ?_
  simp only [ask, h]

theorem requireLive_of_absent (h : TicketStore.openTicket s.store id now = .ok none) :
    requireLive id now s = .error .notFound s := by
  unfold requireLive
  rw [bind_of_ok (ask_ok_iff.2 ⟨h, rfl⟩)]
  rfl

variable [EventSink κ] (hsize : TicketStore.sizeBytes s.store id context.now = .ok size)
  (hprice : Gas.redeemRead size = .ok cost) (h : cost ≤ s.meter.remaining)

include hsize hprice h

theorem redeem_of_refused (hopen : TicketStore.openTicket s.store id context.now = .error error) :
    redeem context id s = .error error { s with meter := s.meter.spend cost } := by
  rw [redeem_of_read hsize hprice h]
  exact bind_of_error (requireLive_of_refused hopen)

theorem redeem_of_absent (hopen : TicketStore.openTicket s.store id context.now = .ok none) :
    redeem context id s = .error .notFound { s with meter := s.meter.spend cost } := by
  rw [redeem_of_read hsize hprice h]
  exact bind_of_error (requireLive_of_absent hopen)

theorem redeem_of_opened
    (hopen : TicketStore.openTicket s.store id context.now = .ok (some ticket)) :
    redeem context id s = (do
      let sequence ← change (TicketStore.incrementAttempt id)
      donate context id sequence : Action σ κ TicketId) { s with meter := s.meter.spend cost } := by
  rw [redeem_of_read hsize hprice h]
  exact bind_of_ok (a := ()) (requireLive_ok_iff.2 ⟨⟨ticket, hopen⟩, rfl⟩)

/-- A store that refuses to count may have changed all the same. -/
theorem redeem_of_miscounted
    (hopen : TicketStore.openTicket s.store id context.now = .ok (some ticket))
    (hcount : TicketStore.incrementAttempt id s.store = (.error error, store)) :
    redeem context id s =
      .error error { s with store := store, meter := s.meter.spend cost } := by
  rw [redeem_of_opened hsize hprice h hopen]
  refine bind_of_error ?_
  simp only [change, hcount]

theorem redeem_of_numbered
    (hopen : TicketStore.openTicket s.store id context.now = .ok (some ticket))
    (hcount : TicketStore.incrementAttempt id s.store = (.ok sequence, store)) :
    redeem context id s =
      donate context id sequence { s with store := store, meter := s.meter.spend cost } := by
  rw [redeem_of_opened hsize hprice h hopen]
  exact bind_of_ok (change_ok_iff.2 ⟨store, hcount, rfl⟩)

end AnyStore

end Controller

/-! ## The law -/

/-- On any store and with any sink that does not speak of gas, an attempt that has paid for the
size it was told has paid for nothing else when the ticket does not open or is not counted. If it
goes through, the sink has taken one event, which gives all that was left, and the price of the
answer is left. If gas is short behind the counting, all of it is gone. -/
theorem an_attempt_pays_for_the_size_that_it_is_told {σ κ : Type} [TicketStore σ] [EventSink κ]
    (never : EventSink.NeverShort κ) (scene : Scene σ κ) (context : CallContext) (id : TicketId)
    (size cost : UInt64) (hsize : TicketStore.sizeBytes scene.store id context.now = .ok size)
    (hprice : Gas.redeemRead size = .ok cost) (hpaid : cost ≤ scene.meter.remaining) :
    let result := Controller.redeem context id scene
    let paid := { scene with
      meter := ⟨scene.meter.remaining - cost, scene.meter.burned + cost⟩ }
    match TicketStore.openTicket scene.store id context.now with
    | .error error => result = .error error paid
    | .ok none => result = .error .notFound paid
    | .ok (some _) =>
      match TicketStore.incrementAttempt id scene.store with
      | (.error error, store) => result = .error error { paid with store := store }
      | (.ok sequence, store) =>
        (∀ retry done, result = .ok retry done →
          retry = id.retry sequence ∧ done.store = store ∧
            EventSink.emit (.scheduled id retry sequence (scene.meter.remaining - cost)
              context.caller) scene.sink = (.ok (), done.sink) ∧
            done.meter.remaining = 96) ∧
        ∀ shortfall stopped, result = .error (.outOfGas shortfall) stopped →
          stopped.meter.remaining = 0 := by
  intro result paid
  rcases hopen : TicketStore.openTicket scene.store id context.now with error | _ | ticket
  · exact Controller.redeem_of_refused hsize hprice hpaid hopen
  · exact Controller.redeem_of_absent hsize hprice hpaid hopen
  rcases hcount : TicketStore.incrementAttempt id scene.store with ⟨error | sequence, store⟩
  · exact Controller.redeem_of_miscounted hsize hprice hpaid hopen hcount
  have hdonate : result = Controller.donate context id sequence { paid with store := store } :=
    Controller.redeem_of_numbered hsize hprice hpaid hopen hcount
  constructor
  · intro retry done hdone
    obtain ⟨hretry, hstore, hkept, htaken⟩ := Controller.donate_ok (hdonate.symm.trans hdone)
    exact ⟨hretry, hstore, htaken, hkept⟩
  · intro shortfall stopped hshort
    obtain ⟨_, hdrained⟩ := Controller.pays_donate never _ _ (hdonate.symm.trans hshort)
    exact congrArg Meter.remaining hdrained

/-- A plain ticket that is told to have 64 bytes. Every attempt is told to be the one with number
41, and if the ticket is absent, it is not opened. -/
def Bench.misled (absent : Bool) (gas : UInt64) : Scene SwitchedStore SwitchedSink where
  store := ⟨.put .zero .plain .empty, ⟨some 64, none, some 41, absent, none⟩⟩
  sink := ⟨.empty, .log⟩
  meter := .ofLimit gas
  notices := []

/-- A plain ticket takes seven words. Told as two, it is read for 100, whether it opens or not. -/
theorem a_plain_ticket_told_as_two_words_is_read_for_a_hundred :
    let attempt := fun absent gas =>
      Controller.redeem ⟨.zero, 99⟩ .zero (Bench.misled absent gas)
    EventSink.NeverShort Bench.SwitchedSink ∧
      (∀ absent gas,
        TicketStore.sizeBytes (Bench.misled absent gas).store .zero 99 = .ok 64) ∧
      Gas.redeemRead 64 = .ok 100 ∧
      attempt true 10000 =
        .error .notFound { Bench.misled true 10000 with meter := ⟨9900, 100⟩ } ∧
      (∃ done, attempt false 10000 = .ok (.retry .zero 41) done ∧ done.meter.remaining = 96 ∧
        done.sink.log = ⟨[.scheduled .zero (.retry .zero 41) 41 9900 .zero]⟩) ∧
      ∃ stopped, attempt false 2000 = .error (.outOfGas ⟨2387, 1900⟩) stopped ∧
        stopped.meter.remaining = 0 := by
  intro attempt
  have hsize : ∀ absent gas,
      TicketStore.sizeBytes (Bench.misled absent gas).store .zero 99 = .ok 64 := fun _ _ => rfl
  have hlaw := fun absent gas (hpaid : (100 : UInt64) ≤ gas) =>
    an_attempt_pays_for_the_size_that_it_is_told Bench.SwitchedSink.neverShort
      (Bench.misled absent gas) ⟨.zero, 99⟩ .zero 64 100 (hsize absent gas) rfl hpaid
  have hdone : ∃ done, attempt false 10000 = .ok (.retry .zero 41) done := ⟨_, rfl⟩
  have hshort : ∃ stopped, attempt false 2000 = .error (.outOfGas ⟨2387, 1900⟩) stopped := ⟨_, rfl⟩
  obtain ⟨done, hdone⟩ := hdone
  obtain ⟨stopped, hshort⟩ := hshort
  obtain ⟨_, _, htaken, hkept⟩ := (hlaw false 10000 (by decide)).1 _ _ hdone
  have hsink : _ = done.sink := congrArg Prod.snd htaken
  have hlog : done.sink.log = ⟨[.scheduled .zero (.retry .zero 41) 41 9900 .zero]⟩ := by
    rw [← hsink]
    rfl
  exact ⟨Bench.SwitchedSink.neverShort, hsize, rfl, hlaw true 10000 (by decide),
    ⟨done, hdone, hkept, hlog⟩,
    ⟨stopped, hshort, (hlaw false 2000 (by decide)).2 _ _ hshort⟩⟩

end RetryTickets
