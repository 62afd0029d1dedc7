-- What a redeem comes to, by the gas it is given. It pays for reading the
-- ticket, counts the attempt, pays for the event and then gives all that is left
-- to the attempt, but for the price of its own answer. The first of these that
-- cannot be done decides the outcome.
import RetryTickets.Proofs.Budgets

namespace RetryTickets

theorem EventKind.gasCost_scheduled : EventKind.scheduled.gasCost = 2387 := by decide

theorem Gas.returnEncoding_eq : returnEncoding = 96 := by decide

/-- What paying for the event and giving the rest leaves on a meter. -/
theorem Meter.spend_donated (meter : Meter) :
    (meter.spend 2387).spend ((meter.spend 2387).remaining - 96) =
      ⟨96, meter.burned + (meter.remaining - 96)⟩ := by
  have hleft : meter.remaining - 2387 - (meter.remaining - 2387 - 96) = 96 := by grind
  have hburned : meter.burned + 2387 + (meter.remaining - 2387 - 96) =
      meter.burned + (meter.remaining - 96) := by grind
  exact congrArg₂ Meter.mk hleft hburned

namespace Controller

open RetryTickets.Action

/-! ## The donation -/

/-- Gives an attempt that was counted all the gas that is left, and keeps the price of the answer. -/
def donate {σ κ : Type} [EventSink κ] (context : CallContext) (id : TicketId) (sequence : UInt64) :
    Action σ κ TicketId := do
  let retry := TicketId.retry id sequence
  let donated ← Action.gasLeft
  Action.emit (.scheduled id retry sequence donated context.caller)
  let left ← Action.gasLeft
  if left < Gas.returnEncoding then
    Action.charge Gas.returnEncoding
  Action.charge (left - Gas.returnEncoding)
  Action.tell (.scheduled sequence id retry)
  return retry

section OnLog

variable {σ : Type} {s : Scene σ EventLog} {context : CallContext} {id : TicketId}
  {sequence : UInt64}

/-- The event of an attempt that is given what is left. -/
def donation (context : CallContext) (id : TicketId) (sequence : UInt64) (s : Scene σ EventLog) :
    Event :=
  .scheduled id (id.retry sequence) sequence s.meter.remaining context.caller

theorem gasCost_donation : (donation context id sequence s).gasCost = 2387 :=
  EventKind.gasCost_scheduled

theorem donate_of_unlogged (h : s.meter.remaining < 2387) :
    donate context id sequence s =
      .error (.outOfGas ⟨2387, s.meter.remaining⟩) { s with meter := s.meter.drain } := by
  unfold donate
  rw [bind_of_ok (gasLeft_ok_iff.2 ⟨rfl, rfl⟩)]
  exact bind_of_error (emit_of_lt gasCost_donation h)

/-- Where the event is paid for, what comes next finds it logged. -/
theorem donate_of_logged (h : 2387 ≤ s.meter.remaining) :
    donate context id sequence s = (do
      let left ← gasLeft
      if left < Gas.returnEncoding then
        charge Gas.returnEncoding
      charge (left - Gas.returnEncoding)
      tell (.scheduled sequence id (id.retry sequence))
      return id.retry sequence : Action σ EventLog TicketId)
      { s with
        meter := s.meter.spend 2387
        sink := s.sink.push (donation context id sequence s) } := by
  unfold donate
  rw [bind_of_ok (gasLeft_ok_iff.2 ⟨rfl, rfl⟩)]
  exact bind_of_ok (emit_of_le gasCost_donation h)

/-- The event is logged before it is seen that the answer cannot be paid for. -/
theorem donate_of_unanswered (h : 2387 ≤ s.meter.remaining)
    (hshort : s.meter.remaining - 2387 < 96) :
    donate context id sequence s = .error (.outOfGas ⟨96, s.meter.remaining - 2387⟩) { s with
      meter := s.meter.drain
      sink := s.sink.push (donation context id sequence s) } := by
  rw [donate_of_logged h, bind_of_ok (gasLeft_ok_iff.2 ⟨rfl, rfl⟩), Gas.returnEncoding_eq,
    if_pos (show (s.meter.spend 2387).remaining < 96 from hshort)]
  refine (bind_of_error (charge_of_lt hshort)).trans ?_
  rw [Meter.drain_spend]
  rfl

/-- An attempt that can be paid for leaves the price of the answer, and nothing more. -/
theorem donate_of_answered (h : 2387 ≤ s.meter.remaining)
    (henough : 96 ≤ s.meter.remaining - 2387) :
    donate context id sequence s = .ok (id.retry sequence) { s with
      meter := ⟨96, s.meter.burned + (s.meter.remaining - 96)⟩
      sink := s.sink.push (donation context id sequence s)
      notices := s.notices ++ [.scheduled sequence id (id.retry sequence)] } := by
  have hgive : s.meter.remaining - 2387 - 96 ≤ s.meter.remaining - 2387 := by
    rw [UInt64.le_iff_toNat_le] at henough ⊢
    rw [UInt64.toNat_sub_of_le _ _ henough]
    exact Nat.sub_le _ _
  rw [donate_of_logged h, bind_of_ok (gasLeft_ok_iff.2 ⟨rfl, rfl⟩), Gas.returnEncoding_eq,
    if_neg (show ¬ (s.meter.spend 2387).remaining < 96 from UInt64.not_lt.2 henough)]
  refine (bind_of_ok (charge_of_le hgive)).trans ?_
  rw [Meter.spend_donated]
  rfl

end OnLog

/-! ## The way to the donation -/

section AnyStore

variable {σ κ : Type} [TicketStore σ] [EventSink κ] {s : Scene σ κ} {context : CallContext}
  {id : TicketId} {size cost : UInt64}

theorem redeem_eq (context : CallContext) (id : TicketId) :
    (redeem context id : Action σ κ TicketId) = (do
      let size ← Action.ask fun store => TicketStore.sizeBytes store id context.now
      let cost ← Action.price (Gas.redeemRead size)
      Action.charge cost
      requireLive id context.now
      let sequence ← Action.change (TicketStore.incrementAttempt id)
      donate context id sequence) := rfl

theorem redeem_of_unread (hsize : TicketStore.sizeBytes s.store id context.now = .ok size)
    (hprice : Gas.redeemRead size = .ok cost) (h : s.meter.remaining < cost) :
    redeem context id s =
      .error (.outOfGas ⟨cost, s.meter.remaining⟩) { s with meter := s.meter.drain } := by
  rw [redeem_eq, bind_of_ok (ask_ok_iff.2 ⟨hsize, rfl⟩), bind_of_ok (price_ok_iff.2 ⟨hprice, rfl⟩)]
  exact bind_of_error (charge_of_lt h)

theorem redeem_of_read (hsize : TicketStore.sizeBytes s.store id context.now = .ok size)
    (hprice : Gas.redeemRead size = .ok cost) (h : cost ≤ s.meter.remaining) :
    redeem context id s = (do
      requireLive id context.now
      let sequence ← change (TicketStore.incrementAttempt id)
      donate context id sequence : Action σ κ TicketId)
      { s with meter := s.meter.spend cost } := by
  rw [redeem_eq, bind_of_ok (ask_ok_iff.2 ⟨hsize, rfl⟩), bind_of_ok (price_ok_iff.2 ⟨hprice, rfl⟩),
    bind_of_ok (charge_of_le h)]

end AnyStore

section OnRegistry

variable {s : Scene Registry EventLog} {context : CallContext} {id : TicketId} {ticket : Ticket}
  {cost : UInt64}

theorem redeem_of_live (hlive : s.store.live? id context.now = some ticket)
    (hprice : Gas.redeemRead ticket.sizeBytes = .ok cost) (h : cost ≤ s.meter.remaining) :
    redeem context id s = (do
      let sequence ← change (TicketStore.incrementAttempt id)
      donate context id sequence : Action Registry EventLog TicketId)
      { s with meter := s.meter.spend cost } := by
  have hopen : requireLive id context.now { s with meter := s.meter.spend cost } =
      .ok () { s with meter := s.meter.spend cost } := Dispatch.requireLive_of_live hlive
  rw [redeem_of_read (Registry.sizeBytes_of_live hlive) hprice h]
  exact bind_of_ok hopen

/-- An attempt that cannot be counted has paid for the reading. -/
theorem redeem_of_uncounted (hlive : s.store.live? id context.now = some ticket)
    (hprice : Gas.redeemRead ticket.sizeBytes = .ok cost) (h : cost ≤ s.meter.remaining)
    (hlast : ticket.attempts = 18446744073709551615) :
    redeem context id s =
      .error (.store (.attemptOverflow id)) { s with meter := s.meter.spend cost } := by
  have hget := (Registry.live?_eq_some_iff.1 hlive).1
  have hfull : Gas.plus? ticket.attempts 1 = none := by
    rw [hlast]
    decide
  have hnext : ticket.nextAttempt? = none := by
    rw [Ticket.nextAttempt?, hfull]
    rfl
  have hcount : change (TicketStore.incrementAttempt id) { s with meter := s.meter.spend cost } =
      .error (.store (.attemptOverflow id)) { s with meter := s.meter.spend cost } := by
    simp [change, TicketStore.incrementAttempt, Registry.incrementAttempt, hget, hnext]
  rw [redeem_of_live hlive hprice h]
  exact bind_of_error hcount

/-- The scene behind the reading and the counting of an attempt. -/
def counted (id : TicketId) (ticket : Ticket) (cost : UInt64) (s : Scene Registry EventLog) :
    Scene Registry EventLog :=
  { s with
    store := s.store.put id { ticket with attempts := ticket.attempts + 1 }
    meter := s.meter.spend cost }

theorem drain_counted : (counted id ticket cost s).meter.drain = s.meter.drain :=
  Meter.drain_spend cost s.meter

theorem redeem_of_counted (hlive : s.store.live? id context.now = some ticket)
    (hprice : Gas.redeemRead ticket.sizeBytes = .ok cost) (h : cost ≤ s.meter.remaining)
    (hroom : ticket.attempts ≠ 18446744073709551615) :
    redeem context id s = donate context id (ticket.attempts + 1) (counted id ticket cost s) := by
  have hget := (Registry.live?_eq_some_iff.1 hlive).1
  have hnext : ticket.nextAttempt? = some { ticket with attempts := ticket.attempts + 1 } := by
    have hlimit := ticket.attempts.toNat_lt
    have hbelow : ticket.attempts.toNat ≠ 2 ^ 64 - 1 := fun hlast => hroom (UInt64.toNat_inj.1 hlast)
    exact Ticket.nextAttempt?_eq_some_iff.2 ⟨by omega, rfl⟩
  rw [redeem_of_live hlive hprice h]
  exact bind_of_ok (change_ok_iff.2 ⟨_, Registry.incrementAttempt_ok_iff.2
    ⟨ticket, _, hget, hnext, rfl, rfl⟩, rfl⟩)

end OnRegistry

end Controller

theorem Call.act_redeem_ok {σ κ : Type} [TicketStore σ] [EventSink κ] {context : CallContext}
    {id retry : TicketId} {s t : Scene σ κ} (h : Controller.redeem context id s = .ok retry t) :
    (redeem id).act context s = .ok (.ticketId retry) t :=
  Action.bind_of_ok h

/-! ## The law -/

/-- What an attempt at a live ticket comes to when it is given some gas. If it goes through, the
price of the answer is left, the rest is given, and the ticket has one attempt more. -/
theorem an_attempt_is_given_what_is_left {κ : Type} [EventSink κ] (desk : Desk κ) (ticket : Ticket)
    (context : CallContext) (gas : UInt64) (hget : desk.registry.get? ticket.id = some ticket)
    (hlive : context.now < ticket.timeout) (hfits : 50 * ticket.words < 2 ^ 64) :
    let request := Call.redeem ticket.id
    let price := UInt64.ofNat (50 * ticket.words)
    (Operation.call request context (.ofLimit gas)).performAt desk =
      if gas < price then (.drained request gas ⟨price, gas⟩, desk)
      else if ticket.attempts = 18446744073709551615 then
        (.refused request gas price (.store (.attemptOverflow ticket.id)), desk)
      else if gas - price < 2387 then (.drained request gas ⟨2387, gas - price⟩, desk)
      else if gas - price - 2387 < 96 then
        (.drained request gas ⟨96, gas - price - 2387⟩, desk)
      else
        let next := { ticket with attempts := ticket.attempts + 1 }
        let retry := ticket.id.retry next.attempts
        (.called ⟨.ticketId retry, gas - 96, none⟩ ⟨96, gas - 96⟩,
          ⟨desk.registry.put ticket.id next, Dispatch.offered
            [.scheduled ticket.id retry next.attempts (gas - price) context.caller] desk.sink⟩) := by
  intro request price
  have hprice : Gas.redeemRead ticket.sizeBytes = .ok price := Ticket.redeemRead_sizeBytes hfits
  have hfound := Registry.live?_eq_some_iff.2 ⟨hget, hlive⟩
  let scene := Operation.trial desk.registry (.ofLimit gas)
  by_cases hread : gas < price
  · rw [if_pos hread]
    have hstop := Controller.redeem_of_unread (s := scene)
      (Registry.sizeBytes_of_live hfound) hprice hread
    exact Operation.performAt_of_drained (Action.bind_of_error hstop) rfl
  rw [if_neg hread]
  have hread := UInt64.not_lt.1 hread
  by_cases hlast : ticket.attempts = 18446744073709551615
  · rw [if_pos hlast]
    have hstop := Controller.redeem_of_uncounted (s := scene) hfound hprice hread hlast
    exact Operation.performAt_of_refused (Action.bind_of_error hstop) rfl
  rw [if_neg hlast]
  -- From here on the attempt is counted, and what is left decides.
  let counted := Controller.counted ticket.id ticket price scene
  have hcounted : Controller.redeem context ticket.id scene =
      Controller.donate context ticket.id (ticket.attempts + 1) counted :=
    Controller.redeem_of_counted hfound hprice hread hlast
  by_cases hevent : gas - price < 2387
  · rw [if_pos hevent]
    have hstop := hcounted.trans (Controller.donate_of_unlogged (s := counted) hevent)
    exact Operation.performAt_of_drained (Action.bind_of_error hstop) Controller.drain_counted
  rw [if_neg hevent]
  have hevent := UInt64.not_lt.1 hevent
  by_cases hanswer : gas - price - 2387 < 96
  · rw [if_pos hanswer]
    have hstop := hcounted.trans (Controller.donate_of_unanswered (s := counted) hevent hanswer)
    exact Operation.performAt_of_drained (Action.bind_of_error hstop) Controller.drain_counted
  rw [if_neg hanswer]
  have hdone := hcounted.trans
    (Controller.donate_of_answered (s := counted) hevent (UInt64.not_lt.1 hanswer))
  have hkept : gas - (gas - 96) = 96 := by grind
  have hburned : 0 + price + (gas - price - 96) = gas - 96 := by grind
  have hmeter : (⟨96, counted.meter.burned + (counted.meter.remaining - 96)⟩ : Meter) =
      (Meter.ofLimit gas).spend (gas - 96) := by
    rw [Meter.spend_ofLimit, hkept, ← hburned]
    rfl
  rw [Operation.performAt_of_done (Call.act_redeem_ok hdone) hmeter, Meter.spend_ofLimit, hkept]
  rfl

/-- A plain ticket is read for 350. With one unit less than the answer needs, all is lost. -/
theorem a_plain_attempt_is_given_all_but_the_answer :
    let desk := Desk.plain EventLog.empty
    let attempt := fun gas =>
      (Operation.call (.redeem .zero) ⟨.zero, 99⟩ (.ofLimit gas)).performAt desk
    desk.registry.get? .zero = some .plain ∧ (99 : UInt64) < Ticket.plain.timeout ∧
      50 * Ticket.plain.words < 2 ^ 64 ∧
      attempt 2832 = (.drained (.redeem .zero) 2832 ⟨96, 95⟩, desk) ∧
      attempt 2833 = (.called ⟨.ticketId (TicketId.retry .zero 1), 2737, none⟩ ⟨96, 2737⟩,
        ⟨desk.registry.put .zero { Ticket.plain with attempts := 1 },
          ⟨[.scheduled .zero (TicketId.retry .zero 1) 1 2483 .zero]⟩⟩) := by
  intro desk attempt
  have hlaw := fun gas => an_attempt_is_given_what_is_left desk .plain ⟨.zero, 99⟩ gas rfl
    (by decide) (by decide)
  exact ⟨rfl, by decide, by decide, hlaw 2832, hlaw 2833⟩

end RetryTickets
