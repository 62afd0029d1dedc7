-- What a keepalive comes to, by the gas it is given. It pays for the ticket's
-- words, moves the end of the ticket to a lifetime from now, and pays for the
-- event. The end hangs on nothing but the time at which the keepalive comes, so
-- a second one at that time changes nothing.
import RetryTickets.Proofs.Budgets

namespace RetryTickets

theorem EventKind.gasCost_extended : EventKind.extended.gasCost = 1381 := by decide

/-! ## The end of a lifetime -/

namespace Ticket

variable {now timeout : UInt64}

theorem toNat_lifetime : lifetime.toNat = 604800 := by decide

theorem lifetime_eq : lifetime = 604800 := UInt64.toNat_inj.1 toNat_lifetime

theorem window_of_lt (h : now.toNat + 604800 < 2 ^ 64) :
    Gas.plus? now lifetime = some (now + 604800) := by
  rw [← toNat_lifetime] at h
  exact Gas.plus?_eq_some_iff.2 ⟨h, by rw [lifetime_eq]⟩

theorem window_of_le (h : 2 ^ 64 ≤ now.toNat + 604800) : Gas.plus? now lifetime = none := by
  cases hwindow : Gas.plus? now lifetime with
  | none => rfl
  | some timeout =>
    have hfits := (Gas.plus?_eq_some_iff.1 hwindow).1
    rw [toNat_lifetime] at hfits
    omega

theorem lt_of_window (h : Gas.plus? now lifetime = some timeout) : now < timeout := by
  rw [UInt64.lt_iff_toNat_lt, toNat_of_window h]
  exact Nat.lt_add_of_pos_right (by decide)

theorem sizeBytes_ne_zero {ticket : Ticket} (h : 32 * ticket.words < 2 ^ 64) :
    ticket.sizeBytes ≠ 0 := by
  intro hzero
  have hsize := toNat_sizeBytes h
  rw [hzero, UInt64.toNat_zero, words] at hsize
  omega

end Ticket

/-- To put a ticket where it is changes nothing. -/
theorem Registry.put_of_get? {registry : Registry} {key : TicketId} {ticket : Ticket}
    (h : registry.get? key = some ticket) : registry.put key ticket = registry := by
  apply ext_get?
  intro k
  rw [get?_put]
  split
  · rename_i hsame
    rw [hsame, h]
  · rfl

namespace Controller

open RetryTickets.Action

/-! ## The extension -/

/-- Moves the end of a ticket that was paid for, to where its next lifetime ends. -/
def extend {σ κ : Type} [TicketStore σ] [EventSink κ] (context : CallContext) (id : TicketId) :
    Option UInt64 → Action σ κ UInt64
  | none => throw (.store .timeoutOverflow)
  | some latest => do
    Action.change (TicketStore.extendExpiry id context.now latest Ticket.lifetime)
    requireLive id context.now
    let newTimeout ← Action.ask fun store => TicketStore.timeout store id
    Action.tell (.extended id newTimeout)
    Action.emit (.extended id newTimeout)
    return newTimeout

section OnRegistry

variable {s : Scene Registry EventLog} {context : CallContext} {id : TicketId} {ticket : Ticket}
  {timeout : UInt64}

/-- The scene in which a ticket has a new end, before that is logged. -/
def extended (id : TicketId) (ticket : Ticket) (timeout : UInt64) (s : Scene Registry EventLog) :
    Scene Registry EventLog :=
  { s with
    store := s.store.put id { ticket with timeout := timeout }
    notices := s.notices ++ [.extended id timeout] }

/-- The new end is read back from a ticket that lives, and only its event is left to pay for. -/
theorem extend_of_live (hlive : s.store.live? id context.now = some ticket)
    (hwindow : Gas.plus? context.now Ticket.lifetime = some timeout) :
    extend context id (some timeout) s = (do
      emit (.extended id timeout)
      return timeout : Action Registry EventLog UInt64) (extended id ticket timeout s) := by
  let kept := s.store.put id { ticket with timeout := timeout }
  have hget : kept.get? id = some { ticket with timeout := timeout } := by
    rw [Registry.get?_put, if_pos rfl]
  have hchange : change (TicketStore.extendExpiry id context.now timeout Ticket.lifetime) s =
      .ok () { s with store := kept } :=
    change_ok_iff.2 ⟨kept, Registry.extendExpiry_ok_iff.2
      ⟨timeout, ticket, hwindow, hlive, UInt64.le_refl _, rfl⟩, rfl⟩
  have hopen : requireLive id context.now { s with store := kept } = .ok () { s with store := kept } :=
    Dispatch.requireLive_of_live (Registry.live?_eq_some_iff.2 ⟨hget, Ticket.lt_of_window hwindow⟩)
  have hask : ask (fun store => TicketStore.timeout store id) { s with store := kept } =
      .ok timeout { s with store := kept } :=
    ask_ok_iff.2 ⟨Registry.timeout_ok_iff.2 ⟨_, hget, rfl⟩, rfl⟩
  simp only [extend]
  rw [bind_of_ok hchange, bind_of_ok hopen, bind_of_ok hask]
  exact bind_of_ok (a := ()) rfl

theorem extend_of_unlogged (hlive : s.store.live? id context.now = some ticket)
    (hwindow : Gas.plus? context.now Ticket.lifetime = some timeout)
    (h : s.meter.remaining < 1381) :
    extend context id (some timeout) s = .error (.outOfGas ⟨1381, s.meter.remaining⟩)
      { extended id ticket timeout s with meter := s.meter.drain } := by
  have hshort : (extended id ticket timeout s).meter.remaining < 1381 := h
  rw [extend_of_live hlive hwindow]
  exact bind_of_error (emit_of_lt EventKind.gasCost_extended hshort)

theorem extend_of_logged (hlive : s.store.live? id context.now = some ticket)
    (hwindow : Gas.plus? context.now Ticket.lifetime = some timeout)
    (h : 1381 ≤ s.meter.remaining) :
    extend context id (some timeout) s = .ok timeout { extended id ticket timeout s with
      meter := s.meter.spend 1381
      sink := s.sink.push (.extended id timeout) } := by
  have henough : 1381 ≤ (extended id ticket timeout s).meter.remaining := h
  rw [extend_of_live hlive hwindow]
  exact bind_of_ok (emit_of_le EventKind.gasCost_extended henough)

end OnRegistry

/-! ## The way to the extension -/

section AnyStore

variable {σ κ : Type} [TicketStore σ] [EventSink κ] {s : Scene σ κ} {context : CallContext}
  {id : TicketId} {size cost : UInt64} {window : Option UInt64}

theorem keepalive_eq (context : CallContext) (id : TicketId) :
    (keepalive context id : Action σ κ UInt64) = (do
      let size ← Action.ask fun store => TicketStore.sizeBytes store id context.now
      if size = 0 then
        throw .notFound
      let cost ← Action.price (Gas.keepalive size)
      Action.charge cost
      extend context id (Gas.plus? context.now Ticket.lifetime)) := by
  unfold keepalive
  generalize Gas.plus? context.now Ticket.lifetime = window
  cases window with
  | none => rfl
  | some latest => rfl

/-- Behind a size that is told, the price is asked for. -/
theorem keepalive_of_sized (hsize : TicketStore.sizeBytes s.store id context.now = .ok size)
    (hsome : size ≠ 0) :
    keepalive context id s = (do
      let cost ← price (Gas.keepalive size)
      charge cost
      extend context id (Gas.plus? context.now Ticket.lifetime) : Action σ κ UInt64) s := by
  rw [keepalive_eq, bind_of_ok (ask_ok_iff.2 ⟨hsize, rfl⟩), if_neg hsome]

theorem keepalive_of_unpaid (hsize : TicketStore.sizeBytes s.store id context.now = .ok size)
    (hsome : size ≠ 0) (hprice : Gas.keepalive size = .ok cost) (h : s.meter.remaining < cost) :
    keepalive context id s =
      .error (.outOfGas ⟨cost, s.meter.remaining⟩) { s with meter := s.meter.drain } := by
  rw [keepalive_of_sized hsize hsome, bind_of_ok (price_ok_iff.2 ⟨hprice, rfl⟩)]
  exact bind_of_error (charge_of_lt h)

theorem keepalive_of_paid (hsize : TicketStore.sizeBytes s.store id context.now = .ok size)
    (hsome : size ≠ 0) (hprice : Gas.keepalive size = .ok cost)
    (hwindow : Gas.plus? context.now Ticket.lifetime = window) (h : cost ≤ s.meter.remaining) :
    keepalive context id s =
      extend context id window { s with meter := s.meter.spend cost } := by
  rw [keepalive_of_sized hsize hsome, bind_of_ok (price_ok_iff.2 ⟨hprice, rfl⟩),
    bind_of_ok (charge_of_le h), hwindow]

end AnyStore

end Controller

theorem Call.act_keepalive_ok {σ κ : Type} [TicketStore σ] [EventSink κ] {context : CallContext}
    {id : TicketId} {timeout : UInt64} {s t : Scene σ κ}
    (h : Controller.keepalive context id s = .ok timeout t) :
    (keepalive id).act context s = .ok (.timestamp timeout) t :=
  Action.bind_of_ok h

/-! ## At a desk -/

/-- What a keepalive burns when it goes through. -/
def Ticket.keepingCost (ticket : Ticket) : UInt64 := UInt64.ofNat (200 * ticket.words) + 1381

/-- The price and the event are paid for just when their sum is there. -/
theorem Ticket.keepingCost_le_iff {ticket : Ticket} {gas : UInt64}
    (h : 20000 * ticket.words < 2 ^ 64) :
    ticket.keepingCost ≤ gas ↔
      UInt64.ofNat (200 * ticket.words) ≤ gas ∧
        1381 ≤ gas - UInt64.ofNat (200 * ticket.words) := by
  have hprice : (UInt64.ofNat (200 * ticket.words)).toNat = 200 * ticket.words := by
    rw [UInt64.toNat_ofNat']
    omega
  have hevent : (1381 : UInt64).toNat = 1381 := rfl
  have hcost : ticket.keepingCost.toNat = 200 * ticket.words + 1381 := by
    rw [keepingCost, UInt64.toNat_add, hprice, hevent]
    omega
  rw [UInt64.le_iff_toNat_le, hcost]
  constructor
  · intro henough
    have hpaid : UInt64.ofNat (200 * ticket.words) ≤ gas := by
      rw [UInt64.le_iff_toNat_le, hprice]
      omega
    refine ⟨hpaid, ?_⟩
    rw [UInt64.le_iff_toNat_le, UInt64.toNat_sub_of_le _ _ hpaid, hprice, hevent]
    omega
  · rintro ⟨hpaid, hrest⟩
    rw [UInt64.le_iff_toNat_le, UInt64.toNat_sub_of_le _ _ hpaid, hprice, hevent] at hrest
    omega

/-- A keepalive of a ticket at some time, by anybody and with any gas. -/
def Operation.keeping (id : TicketId) (now : UInt64) (keeper : Address × Meter) : Operation :=
  .call (.keepalive id) ⟨keeper.1, now⟩ keeper.2

section Keepings

variable {κ : Type} [EventSink κ] {desk : Desk κ} {ticket : Ticket} {now timeout : UInt64}

theorem Operation.performAt_keeping {keeper : Address × Meter}
    (hget : desk.registry.get? ticket.id = some ticket) (hlive : now < ticket.timeout)
    (hfits : 20000 * ticket.words < 2 ^ 64)
    (hwindow : Gas.plus? now Ticket.lifetime = some timeout)
    (henough : ticket.keepingCost ≤ keeper.2.remaining) :
    (keeping ticket.id now keeper).performAt desk =
      (.called ⟨.timestamp timeout, ticket.keepingCost, none⟩ (keeper.2.spend ticket.keepingCost),
        ⟨desk.registry.put ticket.id { ticket with timeout := timeout },
          Dispatch.offered [.extended ticket.id timeout] desk.sink⟩) := by
  obtain ⟨hprice, hevent⟩ := (Ticket.keepingCost_le_iff hfits).1 henough
  have hfound := Registry.live?_eq_some_iff.2 ⟨hget, hlive⟩
  let scene := trial desk.registry keeper.2
  have hpaid : Controller.keepalive ⟨keeper.1, now⟩ ticket.id scene = _ :=
    Controller.keepalive_of_paid (Registry.sizeBytes_of_live hfound)
      (Ticket.sizeBytes_ne_zero (by omega)) (Ticket.keepalive_sizeBytes hfits) hwindow hprice
  have hdone := hpaid.trans (Controller.extend_of_logged hfound hwindow hevent)
  have hmeter : (keeper.2.spend (UInt64.ofNat (200 * ticket.words))).spend 1381 =
      keeper.2.spend ticket.keepingCost := by
    simp only [Meter.spend, Ticket.keepingCost, Meter.mk.injEq]
    constructor <;> grind
  exact performAt_of_done (Call.act_keepalive_ok hdone) hmeter

/-- A ticket that ends a lifetime from now is kept as it is. -/
theorem Operation.performAt_keeping_again {keeper : Address × Meter}
    (hget : desk.registry.get? ticket.id = some { ticket with timeout := timeout })
    (hfits : 20000 * ticket.words < 2 ^ 64)
    (hwindow : Gas.plus? now Ticket.lifetime = some timeout)
    (henough : ticket.keepingCost ≤ keeper.2.remaining) :
    (keeping ticket.id now keeper).performAt desk =
      (.called ⟨.timestamp timeout, ticket.keepingCost, none⟩ (keeper.2.spend ticket.keepingCost),
        ⟨desk.registry, Dispatch.offered [.extended ticket.id timeout] desk.sink⟩) := by
  let kept := { ticket with timeout := timeout }
  have hget : desk.registry.get? kept.id = some kept := hget
  have hkept := performAt_keeping hget (Ticket.lt_of_window hwindow) hfits hwindow henough
  rw [Registry.put_of_get? hget] at hkept
  exact hkept

/-- However often it is kept at that time, only the sink hears of it. -/
theorem Desk.after_keepings
    (hget : desk.registry.get? ticket.id = some { ticket with timeout := timeout })
    (hfits : 20000 * ticket.words < 2 ^ 64)
    (hwindow : Gas.plus? now Ticket.lifetime = some timeout) {keepers : List (Address × Meter)}
    (henough : ∀ keeper ∈ keepers, ticket.keepingCost ≤ keeper.2.remaining) :
    desk.after (keepers.map (.keeping ticket.id now)) = ⟨desk.registry,
      Dispatch.offered (List.replicate keepers.length (.extended ticket.id timeout)) desk.sink⟩ := by
  induction keepers generalizing desk with
  | nil => rfl
  | cons keeper rest ih =>
    obtain ⟨hfirst, hrest⟩ := List.forall_mem_cons.1 henough
    have hstep := Operation.performAt_keeping_again hget hfits hwindow hfirst
    show Desk.after _ ((Operation.keeping ticket.id now keeper).performAt desk).2 = _
    rw [hstep]
    exact ih hget hrest

/-- What a keepalive of a live ticket comes to on a fresh meter. -/
theorem Operation.performAt_keepalive {context : CallContext} (gas : UInt64)
    (hget : desk.registry.get? ticket.id = some ticket) (hlive : context.now < ticket.timeout)
    (hfits : 20000 * ticket.words < 2 ^ 64) :
    let request := Call.keepalive ticket.id
    let price := UInt64.ofNat (200 * ticket.words)
    let timeout := context.now + 604800
    (call request context (.ofLimit gas)).performAt desk =
      if gas < price then (.drained request gas ⟨price, gas⟩, desk)
      else if 2 ^ 64 ≤ context.now.toNat + 604800 then
        (.refused request gas price (.store .timeoutOverflow), desk)
      else if gas - price < 1381 then (.drained request gas ⟨1381, gas - price⟩, desk)
      else
        (.called ⟨.timestamp timeout, price + 1381, none⟩ ⟨gas - (price + 1381), price + 1381⟩,
          ⟨desk.registry.put ticket.id { ticket with timeout := timeout },
            Dispatch.offered [.extended ticket.id timeout] desk.sink⟩) := by
  intro request price timeout
  have hprice : Gas.keepalive ticket.sizeBytes = .ok price := Ticket.keepalive_sizeBytes hfits
  have hfound := Registry.live?_eq_some_iff.2 ⟨hget, hlive⟩
  have hsize := Registry.sizeBytes_of_live hfound
  have hsome : ticket.sizeBytes ≠ 0 := Ticket.sizeBytes_ne_zero (by omega)
  let scene := trial desk.registry (.ofLimit gas)
  by_cases hpaid : gas < price
  · rw [if_pos hpaid]
    have hstop := Controller.keepalive_of_unpaid (s := scene) hsize hsome hprice hpaid
    exact performAt_of_drained (Action.bind_of_error hstop) rfl
  rw [if_neg hpaid]
  have hpaid := UInt64.not_lt.1 hpaid
  -- From here on the price is paid, and it is the extension that may be refused.
  let paid := { scene with meter := scene.meter.spend price }
  by_cases hlate : 2 ^ 64 ≤ context.now.toNat + 604800
  · rw [if_pos hlate]
    have hstop : Controller.keepalive context ticket.id scene =
        .error (.store .timeoutOverflow) paid :=
      Controller.keepalive_of_paid hsize hsome hprice (Ticket.window_of_le hlate) hpaid
    exact performAt_of_refused (Action.bind_of_error hstop) rfl
  rw [if_neg hlate]
  have hwindow := Ticket.window_of_lt (Nat.not_le.1 hlate)
  by_cases hevent : gas - price < 1381
  · rw [if_pos hevent]
    have hextend := Controller.keepalive_of_paid (s := scene) hsize hsome hprice hwindow hpaid
    have hstop := hextend.trans (Controller.extend_of_unlogged (s := paid) hfound hwindow hevent)
    exact performAt_of_drained (Action.bind_of_error hstop) (Meter.drain_spend price _)
  rw [if_neg hevent]
  have henough := (Ticket.keepingCost_le_iff hfits).2 ⟨hpaid, UInt64.not_lt.1 hevent⟩
  have hdone : (keeping ticket.id context.now (context.caller, .ofLimit gas)).performAt desk = _ :=
    performAt_keeping hget hlive hfits hwindow henough
  rw [Meter.spend_ofLimit] at hdone
  exact hdone

/-- A keepalive that went through has left the ticket with an end a lifetime from then. -/
theorem Operation.kept_of_went {context : CallContext} {meter : Meter}
    (hget : desk.registry.get? ticket.id = some ticket)
    (hwent : ((call (.keepalive ticket.id) context meter).performAt desk).1.outcome = .ok ()) :
    Gas.plus? context.now Ticket.lifetime = some (context.now + 604800) ∧
      ((call (.keepalive ticket.id) context meter).performAt desk).2.registry.get? ticket.id =
        some { ticket with timeout := context.now + 604800 } := by
  cases hact : (Call.keepalive ticket.id).act context (trial desk.registry meter) with
  | error error stopped =>
    rw [performAt_call_of_error hact] at hwent
    cases hwent
  | ok output done =>
    cases Call.answers_of_act hact with
    | @keepalive _ time _ hkeepalive =>
      obtain ⟨found, hfound, hwindow, hstore, _⟩ := Controller.kept hkeepalive
      cases (Registry.live?_eq_some_iff.1 hfound).1.symm.trans hget
      have htime := (Gas.plus?_eq_some_iff.1 hwindow).2
      rw [Ticket.lifetime_eq] at htime
      subst htime
      rw [performAt_call_of_ok hact]
      refine ⟨hwindow, ?_⟩
      show done.store.get? ticket.id = _
      rw [hstore, Registry.get?_put, if_pos rfl]

end Keepings

/-! ## The law -/

/-- What a keepalive of a live ticket comes to when it is given some gas. If it goes through, the
ticket ends a lifetime from now, wherever it ended before. Once it has gone through, any number of
further ones at that time leave the tickets as they are and are answered the same. -/
theorem keepalives_do_not_add_up {κ : Type} [EventSink κ] (desk : Desk κ) (ticket : Ticket)
    (context : CallContext) (gas : UInt64) (hget : desk.registry.get? ticket.id = some ticket)
    (hlive : context.now < ticket.timeout) (hfits : 20000 * ticket.words < 2 ^ 64) :
    let request := Call.keepalive ticket.id
    let price := UInt64.ofNat (200 * ticket.words)
    let cost := price + 1381
    let timeout := context.now + 604800
    let result := (Operation.call request context (.ofLimit gas)).performAt desk
    (result =
      if gas < price then (.drained request gas ⟨price, gas⟩, desk)
      else if 2 ^ 64 ≤ context.now.toNat + 604800 then
        (.refused request gas price (.store .timeoutOverflow), desk)
      else if gas - price < 1381 then (.drained request gas ⟨1381, gas - price⟩, desk)
      else
        (.called ⟨.timestamp timeout, cost, none⟩ ⟨gas - cost, cost⟩,
          ⟨desk.registry.put ticket.id { ticket with timeout := timeout },
            Dispatch.offered [.extended ticket.id timeout] desk.sink⟩)) ∧
    (result.1.outcome = .ok () → ∀ keepers : List (Address × Meter),
      (∀ keeper ∈ keepers, cost ≤ keeper.2.remaining) →
      let kept := result.2.after (keepers.map (.keeping ticket.id context.now))
      kept = ⟨result.2.registry,
        Dispatch.offered (List.replicate keepers.length (.extended ticket.id timeout))
          result.2.sink⟩ ∧
      ∀ keeper : Address × Meter, cost ≤ keeper.2.remaining →
        ((Operation.keeping ticket.id context.now keeper).performAt kept).1 =
          .called ⟨.timestamp timeout, cost, none⟩ (keeper.2.spend cost)) := by
  intro request price cost timeout result
  refine ⟨Operation.performAt_keepalive gas hget hlive hfits, fun hwent keepers henough => ?_⟩
  obtain ⟨hwindow, hnext⟩ := Operation.kept_of_went hget hwent
  have hkept := Desk.after_keepings hnext hfits hwindow henough
  have hthere : (result.2.after (keepers.map (.keeping ticket.id context.now))).registry.get?
      ticket.id = some { ticket with timeout := timeout } := by
    rw [hkept]
    exact hnext
  exact ⟨hkept, fun keeper hone =>
    congrArg Prod.fst (Operation.performAt_keeping_again hthere hfits hwindow hone)⟩

/-- A plain ticket is kept for 2781, and then as often as there is gas. -/
theorem a_plain_ticket_is_kept_once :
    let desk := Desk.plain EventLog.empty
    let keeper := fun gas : UInt64 => ((.zero, .ofLimit gas) : Address × Meter)
    let keep := fun gas => (Operation.keeping .zero 99 (keeper gas)).performAt desk
    let kept : Desk EventLog :=
      ⟨desk.registry.put .zero { Ticket.plain with timeout := 604899 }, ⟨[.extended .zero 604899]⟩⟩
    desk.registry.get? .zero = some .plain ∧ (99 : UInt64) < Ticket.plain.timeout ∧
      20000 * Ticket.plain.words < 2 ^ 64 ∧
      keep 2780 = (.drained (.keepalive .zero) 2780 ⟨1381, 1380⟩, desk) ∧
      keep 2781 = (.called ⟨.timestamp 604899, 2781, none⟩ ⟨0, 2781⟩, kept) ∧
      kept.after [.keeping .zero 99 (keeper 2781), .keeping .zero 99 (keeper 5000)] =
        ⟨kept.registry, ⟨List.replicate 3 (.extended .zero 604899)⟩⟩ := by
  intro desk keeper keep kept
  have hlaw := fun gas => keepalives_do_not_add_up desk .plain ⟨.zero, 99⟩ gas rfl
    (by decide) (by decide)
  have hintime : ¬ 2 ^ 64 ≤ (99 : UInt64).toNat + 604800 := by decide
  have hshort : keep 2780 = (.drained (.keepalive .zero) 2780 ⟨1381, 1380⟩, desk) := by
    refine (hlaw 2780).1.trans ?_
    rw [if_neg (by decide), if_neg hintime]
    rfl
  have hdone : keep 2781 = (.called ⟨.timestamp 604899, 2781, none⟩ ⟨0, 2781⟩, kept) := by
    refine (hlaw 2781).1.trans ?_
    rw [if_neg (by decide), if_neg hintime]
    rfl
  have hwent : (keep 2781).1.outcome = .ok () := congrArg (fun result => result.1.outcome) hdone
  have hagain : (keep 2781).2.after _ = ⟨(keep 2781).2.registry,
      Dispatch.offered (List.replicate 2 (.extended .zero 604899)) (keep 2781).2.sink⟩ :=
    ((hlaw 2781).2 hwent [keeper 2781, keeper 5000] (by decide)).1
  rw [hdone] at hagain
  exact ⟨rfl, by decide, by decide, hshort, hdone, hagain⟩

end RetryTickets
