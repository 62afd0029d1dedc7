-- Calls with more gas. A call that does not end for want of gas ends the same
-- way with more of it, on any store. All that more gas changes is what an
-- attempt is given.
import Mathlib.Data.List.Forall2
import RetryTickets.Proofs.Atomicity
import RetryTickets.Proofs.Payments
import RetryTickets.Proofs.Redeems

namespace RetryTickets

/-! ## Scenes that differ in gas -/

/-- The same event, but that an attempt is given more gas. -/
inductive Event.GivenMore (extra : Nat) : Event → Event → Prop
  | same {event : Event} (h : event.kind ≠ .scheduled) : GivenMore extra event event
  | scheduled {id retry : TicketId} {sequence donated donated' : UInt64} {donor : Address}
      (h : donated'.toNat = donated.toNat + extra) :
      GivenMore extra (.scheduled id retry sequence donated donor)
        (.scheduled id retry sequence donated' donor)

namespace Scene

variable {σ : Type}

/-- Scenes that are the same but for what attempts were given. -/
structure Alike (extra : Nat) (s t : Scene σ EventLog) : Prop where
  store : t.store = s.store
  events : List.Forall₂ (Event.GivenMore extra) s.sink.events t.sink.events

/-- In the second scene there is more gas left. -/
structure Richer (extra : Nat) (s t : Scene σ EventLog) : Prop extends Alike extra s t where
  remaining : t.meter.remaining.toNat = s.meter.remaining.toNat + extra

/-- In both scenes the rest was given to an attempt, and the price of its answer is left. -/
structure Spent (extra : Nat) (s t : Scene σ EventLog) : Prop extends Alike extra s t where
  left : s.meter.remaining = 96
  left' : t.meter.remaining = 96

variable {extra : Nat} {s t : Scene σ EventLog}

theorem Richer.le (h : Richer extra s t) : s.meter.remaining ≤ t.meter.remaining := by
  rw [UInt64.le_iff_toNat_le, h.remaining]
  exact Nat.le_add_right _ _

/-- Where the difference is left, as much was used. -/
theorem Richer.gasUsed (h : Richer extra s t) {used used' : UInt64} {gas : Nat}
    (hused : used.toNat + s.meter.remaining.toNat = gas)
    (hused' : used'.toNat + t.meter.remaining.toNat = gas + extra) : used' = used := by
  rw [h.remaining] at hused'
  exact UInt64.toNat_inj.1 (by omega)

theorem Alike.events_push (h : Alike extra s t) {event event' : Event}
    (hevent : event.GivenMore extra event') : List.Forall₂ (Event.GivenMore extra)
      (s.sink.push event).events (t.sink.push event').events :=
  List.rel_append h.events (.cons hevent .nil)

end Scene

/-! ## Actions that more gas does not change -/

namespace Action

variable {σ α β : Type} {extra : Nat} {P : Scene σ EventLog → Scene σ EventLog → Prop}

/-- With more gas the action ends as it does with less, unless that is for want of gas. What it
leaves when it goes through is related by `P`. -/
structure Steady (extra : Nat) (P : Scene σ EventLog → Scene σ EventLog → Prop)
    (x : Action σ EventLog α) : Prop where
  ok : ∀ {s s' a t}, Scene.Richer extra s s' → x s = .ok a t →
    ∃ t', x s' = .ok a t' ∧ P t t'
  error : ∀ {s s' error t}, Scene.Richer extra s s' → x s = .error error t → error.Other →
    ∃ t', x s' = .error error t' ∧ Scene.Richer extra t t'

theorem steady_pure (a : α) : (pure a : Action σ EventLog α).Steady extra (Scene.Richer extra) where
  ok h hrun := by
    cases hrun
    exact ⟨_, rfl, h⟩
  error _ hrun := nomatch hrun

theorem steady_throw (error : Error) : (throw error : Action σ EventLog α).Steady extra P where
  ok _ hrun := nomatch hrun
  error h hrun _ := by
    cases hrun
    exact ⟨_, rfl, h⟩

theorem Steady.bind {x : Action σ EventLog α} {f : α → Action σ EventLog β}
    (hx : x.Steady extra (Scene.Richer extra)) (hf : ∀ a, (f a).Steady extra P) :
    (x >>= f).Steady extra P where
  ok h hrun := by
    obtain ⟨a, u, hfirst, hrest⟩ := bind_ok_iff.1 hrun
    obtain ⟨u', hfirst', hu⟩ := hx.ok h hfirst
    rw [bind_of_ok hfirst']
    exact (hf a).ok hu hrest
  error {s s' error t} h hrun hother := by
    cases hfirst : x s with
    | ok a u =>
      rw [bind_of_ok hfirst] at hrun
      obtain ⟨u', hfirst', hu⟩ := hx.ok h hfirst
      rw [bind_of_ok hfirst']
      exact (hf a).error hu hrun hother
    | error stop u =>
      rw [bind_of_error hfirst] at hrun
      cases hrun
      obtain ⟨t', hstop, ht⟩ := hx.error h hfirst hother
      exact ⟨t', bind_of_error hstop, ht⟩

/-- An answer may be put differently. -/
theorem Steady.map {x : Action σ EventLog α} (hx : x.Steady extra P) (f : α → β) :
    (x >>= fun a => pure (f a)).Steady extra P where
  ok h hrun := by
    obtain ⟨a, u, hfirst, hrest⟩ := bind_ok_iff.1 hrun
    obtain ⟨u', hfirst', hu⟩ := hx.ok h hfirst
    cases hrest
    exact ⟨u', bind_of_ok hfirst', hu⟩
  error h hrun hother := by
    obtain ⟨t', hstop, ht⟩ := hx.error h (error_of_map hrun) hother
    exact ⟨t', bind_of_error hstop, ht⟩

/-- Nothing comes behind an error. -/
theorem steady_throw_bind (error : Error) (f : α → Action σ EventLog β) :
    (throw error >>= f).Steady extra P where
  ok _ hrun := nomatch hrun
  error h hrun _ := by
    cases hrun
    exact ⟨_, rfl, h⟩

theorem steady_ite {c : Prop} [Decidable c] {x y : Action σ EventLog α} (hx : x.Steady extra P)
    (hy : y.Steady extra P) : (if c then x else y).Steady extra P := by
  split
  · exact hx
  · exact hy

theorem steady_ask (question : σ → Except Error α) :
    (ask question : Action σ EventLog α).Steady extra (Scene.Richer extra) where
  ok h hrun := by
    obtain ⟨hanswer, rfl⟩ := ask_ok_iff.1 hrun
    exact ⟨_, ask_ok_iff.2 ⟨h.store ▸ hanswer, rfl⟩, h⟩
  error {s s' error t} h hrun _ := by
    unfold ask at hrun ⊢
    rw [h.store]
    cases hanswer : question s.store with
    | ok a =>
      rw [hanswer] at hrun
      cases hrun
    | error stop =>
      rw [hanswer] at hrun
      cases hrun
      exact ⟨s', rfl, h⟩

theorem steady_change (operation : σ → Except Error α × σ) :
    (change operation : Action σ EventLog α).Steady extra (Scene.Richer extra) where
  ok h hrun := by
    obtain ⟨store, hchange, rfl⟩ := change_ok_iff.1 hrun
    exact ⟨_, change_ok_iff.2 ⟨store, h.store ▸ hchange, rfl⟩, ⟨⟨rfl, h.events⟩, h.remaining⟩⟩
  error {s s' error t} h hrun _ := by
    unfold change at hrun ⊢
    rw [h.store]
    rcases hchange : operation s.store with ⟨stop | a, store⟩
    · rw [hchange] at hrun
      cases hrun
      exact ⟨_, rfl, ⟨rfl, h.events⟩, h.remaining⟩
    · rw [hchange] at hrun
      cases hrun

theorem steady_price (amount : Except Shortfall UInt64) :
    (price amount : Action σ EventLog UInt64).Steady extra (Scene.Richer extra) where
  ok h hrun := by
    obtain ⟨hamount, rfl⟩ := price_ok_iff.1 hrun
    exact ⟨_, price_ok_iff.2 ⟨hamount, rfl⟩, h⟩
  error h hrun hother := by
    cases amount with
    | ok gas => cases hrun
    | error shortfall =>
      cases hrun
      exact absurd rfl (hother shortfall)

/-- What is paid with less is paid with more, and the difference stays. -/
theorem steady_charge (amount : UInt64) :
    (charge amount : Action σ EventLog Unit).Steady extra (Scene.Richer extra) where
  ok {s s' u t} h hrun := by
    obtain ⟨hpaid, rfl⟩ := charge_ok_iff.1 hrun
    have hpaid' := UInt64.le_trans hpaid h.le
    refine ⟨_, charge_of_le hpaid', ⟨⟨h.store, h.events⟩, ?_⟩⟩
    show (s'.meter.remaining - amount).toNat = (s.meter.remaining - amount).toNat + extra
    have hamount := UInt64.le_iff_toNat_le.1 hpaid
    rw [UInt64.toNat_sub_of_le _ _ hpaid, UInt64.toNat_sub_of_le _ _ hpaid', h.remaining]
    omega
  error {s s' error t} h hrun hother := by
    by_cases hshort : s.meter.remaining < amount
    · cases hrun.symm.trans (charge_of_lt hshort)
      exact absurd rfl (hother _)
    · cases hrun.symm.trans (charge_of_le (UInt64.not_lt.1 hshort))

theorem steady_tell (notice : Notice) :
    (tell notice : Action σ EventLog Unit).Steady extra (Scene.Richer extra) where
  ok h hrun := by
    cases hrun
    exact ⟨_, rfl, ⟨⟨h.store, h.events⟩, h.remaining⟩⟩
  error _ hrun := nomatch hrun

theorem steady_emit {event : Event} (hkind : event.kind ≠ .scheduled) :
    (emit event : Action σ EventLog Unit).Steady extra (Scene.Richer extra) := by
  refine (steady_charge event.gasCost).bind fun _ => ?_
  constructor
  · intro s s' u t h hrun
    cases hrun
    exact ⟨_, rfl, ⟨⟨h.store, h.events_push (.same hkind)⟩, h.remaining⟩⟩
  · exact fun _ hrun => nomatch hrun

end Action

/-! ## Calls -/

namespace Controller

open RetryTickets.Action

variable {σ : Type} {extra : Nat}

/-- An attempt that is counted can only fail for want of gas. -/
theorem donate_short_or_enough (context : CallContext) (id : TicketId) (sequence : UInt64)
    (s : Scene σ EventLog) :
    (∃ shortfall t, donate context id sequence s = .error (.outOfGas shortfall) t) ∨
      2387 ≤ s.meter.remaining ∧ 96 ≤ s.meter.remaining - 2387 := by
  by_cases hevent : s.meter.remaining < 2387
  · exact .inl ⟨_, _, donate_of_unlogged hevent⟩
  have hevent := UInt64.not_lt.1 hevent
  by_cases hanswer : s.meter.remaining - 2387 < 96
  · exact .inl ⟨_, _, donate_of_unanswered hevent hanswer⟩
  · exact .inr ⟨hevent, UInt64.not_lt.1 hanswer⟩

/-- An attempt is given all that there is more. -/
theorem steady_donate (context : CallContext) (id : TicketId) (sequence : UInt64) :
    (donate context id sequence : Action σ EventLog TicketId).Steady extra (Scene.Spent extra) where
  ok {s s' retry t} h hrun := by
    obtain ⟨shortfall, u, hshort⟩ | ⟨hevent, hanswer⟩ :=
      donate_short_or_enough context id sequence s
    · cases hrun.symm.trans hshort
    · cases hrun.symm.trans (donate_of_answered hevent hanswer)
      have hle := UInt64.le_iff_toNat_le.1 h.le
      have hevent' := UInt64.le_trans hevent h.le
      have hanswer' : 96 ≤ s'.meter.remaining - 2387 := by
        rw [UInt64.le_iff_toNat_le] at hanswer ⊢
        rw [UInt64.toNat_sub_of_le _ _ hevent] at hanswer
        rw [UInt64.toNat_sub_of_le _ _ hevent']
        omega
      exact ⟨_, donate_of_answered hevent' hanswer',
        ⟨⟨h.store, h.events_push (.scheduled h.remaining)⟩, rfl, rfl⟩⟩
  error {s s' error t} h hrun hother := by
    obtain ⟨shortfall, u, hshort⟩ | ⟨hevent, hanswer⟩ :=
      donate_short_or_enough context id sequence s
    · cases hrun.symm.trans hshort
      exact absurd rfl (hother shortfall)
    · cases hrun.symm.trans (donate_of_answered hevent hanswer)

variable [TicketStore σ]

theorem steady_requireLive (id : TicketId) (now : UInt64) :
    (requireLive id now : Action σ EventLog Unit).Steady extra (Scene.Richer extra) := by
  refine (steady_ask _).bind fun found => ?_
  cases found with
  | none => exact steady_throw _
  | some ticket => exact steady_pure ()

theorem steady_cancel (context : CallContext) (id : TicketId) :
    (cancel context id : Action σ EventLog Unit).Steady extra (Scene.Richer extra) := by
  refine (steady_requireLive id _).bind fun _ => ?_
  refine (steady_ask _).bind fun beneficiary => ?_
  apply steady_ite
  · exact steady_throw_bind _ _
  · refine (steady_change _).bind fun _ => ?_
    exact (steady_tell _).bind fun _ => steady_emit nofun

theorem steady_keepalive (context : CallContext) (id : TicketId) :
    (keepalive context id : Action σ EventLog UInt64).Steady extra (Scene.Richer extra) := by
  refine (steady_ask _).bind fun size => ?_
  apply steady_ite
  · exact steady_throw_bind _ _
  · refine (steady_price _).bind fun cost => ?_
    refine (steady_charge cost).bind fun _ => ?_
    cases Gas.plus? context.now Ticket.lifetime with
    | none => exact steady_throw _
    | some latest =>
      refine (steady_change _).bind fun _ => ?_
      refine (steady_requireLive id _).bind fun _ => ?_
      refine (steady_ask _).bind fun newTimeout => ?_
      refine (steady_tell _).bind fun _ => ?_
      refine (steady_emit ?_).bind fun _ => steady_pure newTimeout
      exact nofun

theorem steady_redeem (context : CallContext) (id : TicketId) :
    (redeem context id : Action σ EventLog TicketId).Steady extra (Scene.Spent extra) := by
  rw [redeem_eq]
  refine (steady_ask _).bind fun size => ?_
  refine (steady_price _).bind fun cost => ?_
  refine (steady_charge cost).bind fun _ => ?_
  refine (steady_requireLive id _).bind fun _ => ?_
  refine (steady_change _).bind fun sequence => ?_
  exact steady_donate context id sequence

end Controller

namespace Call

variable {σ : Type}

/-- How two runs of a call that went through differ, when one has more gas. -/
def Leaves (extra : Nat) : Call → Scene σ EventLog → Scene σ EventLog → Prop
  | .redeem _ => Scene.Spent extra
  | _ => Scene.Richer extra

theorem steady_act [TicketStore σ] (extra : Nat) (context : CallContext) (call : Call) :
    (call.act context : Action σ EventLog Output).Steady extra (call.Leaves extra) := by
  cases call with
  | cancel id => exact (Controller.steady_cancel context id).map fun _ => Output.unit
  | getBeneficiary id =>
    refine Action.Steady.map ?_ Output.address
    exact (Controller.steady_requireLive id _).bind fun _ => Action.steady_ask _
  | getLifetime => exact Action.steady_pure _
  | getTimeout id =>
    refine Action.Steady.map ?_ Output.timestamp
    exact (Controller.steady_requireLive id _).bind fun _ => Action.steady_ask _
  | keepalive id => exact (Controller.steady_keepalive context id).map Output.timestamp
  | redeem id => exact (Controller.steady_redeem context id).map Output.ticketId

variable {extra : Nat} {call : Call} {s t : Scene σ EventLog}

theorem Leaves.alike (h : call.Leaves extra s t) : Scene.Alike extra s t := by
  cases call with
  | redeem id => exact Scene.Spent.toAlike h
  | _ => exact Scene.Richer.toAlike h

theorem Leaves.gasUsed (h : call.Leaves extra s t) {used used' : UInt64} {gas : Nat}
    (hused : used.toNat + s.meter.remaining.toNat = gas)
    (hused' : used'.toNat + t.meter.remaining.toNat = gas + extra) :
    ((∃ id, call = .redeem id) → used'.toNat = used.toNat + extra ∧
      s.meter.remaining = 96 ∧ t.meter.remaining = 96) ∧
    ((¬ ∃ id, call = .redeem id) → used' = used) := by
  constructor
  · rintro ⟨id, rfl⟩
    obtain ⟨_, hleft, hleft'⟩ := h
    rw [hleft] at hused
    rw [hleft'] at hused'
    exact ⟨by omega, hleft, hleft'⟩
  · intro hnot
    cases call with
    | redeem id => exact absurd ⟨id, rfl⟩ hnot
    | _ => exact Scene.Richer.gasUsed h hused hused'

end Call

/-! ## Dispatch -/

namespace Dispatch

variable {σ κ : Type} [TicketStore σ] [EventSink κ]

/-- What the sink is offered of a call. -/
def logged (call : Call) (context : CallContext) (store : σ) (meter : Meter) : List Event :=
  match call.act context ⟨store, EventLog.empty, meter, []⟩ with
  | .ok _ done => done.sink.events
  | .error _ _ => []

variable {call : Call} {context : CallContext} {store : σ} {meter : Meter}

theorem logged_of_ok {output : Output} {done : Scene σ EventLog}
    (h : call.act context ⟨store, .empty, meter, []⟩ = .ok output done) :
    logged call context store meter = done.sink.events := by
  unfold logged
  rw [h]

theorem logged_of_error {error : Error} {stopped : Scene σ EventLog}
    (h : call.act context ⟨store, .empty, meter, []⟩ = .error error stopped) :
    logged call context store meter = [] := by
  unfold logged
  rw [h]

/-- What a call on a fresh meter uses and what it leaves make up its budget. -/
theorem gasUsed_execute (call : Call) (context : CallContext) (scene : Scene σ κ) (gas : UInt64) :
    let (receipt, after) := execute call context { scene with meter := .ofLimit gas }
    receipt.gasUsed.toNat + after.meter.remaining.toNat = gas.toNat := by
  let expense := Expense.call call context scene
  have hreceipt : (expense.pay (.ofLimit gas)).1 = some _ := rfl
  exact Expense.gasUsed_paid (Meter.balanced_ofLimit gas) hreceipt

end Dispatch

/-! ## The law -/

/-- On any store, a call that does not end for want of gas ends with more gas as it does with less.
An attempt is given all that there is more and leaves the price of its answer. All other calls use
as much as before. -/
theorem more_gas_only_gives_an_attempt_more {σ κ : Type} [TicketStore σ] [EventSink κ]
    (call : Call) (context : CallContext) (scene : Scene σ κ) (gas more : UInt64)
    (hmore : gas ≤ more)
    (hother : ∀ shortfall,
      (Dispatch.execute call context { scene with meter := .ofLimit gas }).1.error ≠
        some (.outOfGas shortfall)) :
    let extra := more.toNat - gas.toNat
    let events := fun gas => Dispatch.logged call context scene.store (.ofLimit gas)
    let run := fun gas => Dispatch.execute call context { scene with meter := .ofLimit gas }
    let attempted := (∃ id, call = .redeem id) ∧ (run gas).1.error = none
    (run more).1.output = (run gas).1.output ∧ (run more).1.error = (run gas).1.error ∧
      (run more).2.store = (run gas).2.store ∧
      (run gas).2.sink = Dispatch.offered (events gas) scene.sink ∧
      (run more).2.sink = Dispatch.offered (events more) scene.sink ∧
      List.Forall₂ (Event.GivenMore extra) (events gas) (events more) ∧
      (attempted → (run more).1.gasUsed.toNat = (run gas).1.gasUsed.toNat + extra ∧
        (run gas).2.meter.remaining = 96 ∧ (run more).2.meter.remaining = 96) ∧
      (¬ attempted → (run more).1.gasUsed = (run gas).1.gasUsed) := by
  intro extra events run attempted
  have hmore : more.toNat = gas.toNat + extra :=
    (Nat.add_sub_of_le (UInt64.le_iff_toNat_le.1 hmore)).symm
  have hrich : Scene.Richer extra (σ := σ) ⟨scene.store, .empty, .ofLimit gas, []⟩
      ⟨scene.store, .empty, .ofLimit more, []⟩ := ⟨⟨rfl, .nil⟩, hmore⟩
  have hsteady := Call.steady_act (σ := σ) extra context call
  have hused : (run gas).1.gasUsed.toNat + (run gas).2.meter.remaining.toNat = gas.toNat :=
    Dispatch.gasUsed_execute call context scene gas
  have hused' : (run more).1.gasUsed.toNat + (run more).2.meter.remaining.toNat =
      gas.toNat + extra := (Dispatch.gasUsed_execute call context scene more).trans hmore
  cases hact : call.act context ⟨scene.store, EventLog.empty, .ofLimit gas, []⟩ with
  | ok output done =>
    obtain ⟨done', hact', hleaves⟩ := hsteady.ok hrich hact
    obtain ⟨told, hrun : run gas = _⟩ := Dispatch.execute_of_ok hact scene.sink scene.notices
    obtain ⟨told', hrun' : run more = _⟩ := Dispatch.execute_of_ok hact' scene.sink scene.notices
    have hevents : events gas = done.sink.events := Dispatch.logged_of_ok hact
    have hevents' : events more = done'.sink.events := Dispatch.logged_of_ok hact'
    rw [hrun] at hused
    rw [hrun'] at hused'
    obtain ⟨hgiven, hkept⟩ := hleaves.gasUsed hused hused'
    rw [hrun, hrun', hevents, hevents']
    exact ⟨rfl, rfl, hleaves.alike.store, rfl, rfl, hleaves.alike.events,
      fun h => hgiven h.1, fun h => hkept fun hredeem => h ⟨hredeem, congrArg (·.1.error) hrun⟩⟩
  | error error stopped =>
    obtain ⟨told, hrun : run gas = _⟩ := Dispatch.execute_of_error hact scene.sink scene.notices
    have hfailed : (run gas).1.error = some error := congrArg (·.1.error) hrun
    have hother : error.Other := fun shortfall h => hother shortfall (h ▸ hfailed)
    obtain ⟨stopped', hact', hleft⟩ := hsteady.error hrich hact hother
    obtain ⟨told', hrun' : run more = _⟩ :=
      Dispatch.execute_of_error hact' scene.sink scene.notices
    have hevents : events gas = [] := Dispatch.logged_of_error hact
    have hevents' : events more = [] := Dispatch.logged_of_error hact'
    have hnot : ¬ attempted := fun h => nomatch hfailed.symm.trans h.2
    rw [hrun] at hused
    rw [hrun'] at hused'
    have hkept := hleft.gasUsed hused hused'
    rw [hrun, hrun', hevents, hevents']
    exact ⟨rfl, rfl, rfl, rfl, rfl, .nil, fun h => absurd h hnot, fun _ => hkept⟩

/-- A plain attempt goes through with 2833. What it is given beyond that is given on. -/
theorem a_plain_attempt_is_given_what_is_added :
    let scene : Scene Registry EventLog := ⟨.put .zero .plain .empty, .empty, .ofLimit 0, []⟩
    let run := fun gas => Dispatch.execute (.redeem .zero) ⟨.zero, 99⟩
      { scene with meter := .ofLimit gas }
    (2833 : UInt64) ≤ 5000 ∧ (∀ shortfall, (run 2833).1.error ≠ some (.outOfGas shortfall)) ∧
      (run 5000).1.output = (run 2833).1.output ∧ (run 5000).1.error = none ∧
      (run 2833).1.gasUsed = 2737 ∧ (run 5000).1.gasUsed = 4904 ∧
      (run 5000).2.meter.remaining = 96 := by
  intro scene run
  have hdone : (run 2833).1.error = none := by decide +kernel
  have hfirst : (run 2833).1.gasUsed = 2737 := by decide +kernel
  have hother : ∀ shortfall, (run 2833).1.error ≠ some (.outOfGas shortfall) := by
    rw [hdone]
    exact nofun
  have hlaw := more_gas_only_gives_an_attempt_more (.redeem .zero) ⟨.zero, 99⟩ scene 2833 5000
    (by decide) hother
  obtain ⟨houtput, herror, _, _, _, _, hgiven, _⟩ := hlaw
  obtain ⟨hused, _, hleft⟩ := hgiven ⟨⟨_, rfl⟩, hdone⟩
  have hsecond : (run 5000).1.gasUsed = 4904 := by
    apply UInt64.toNat_inj.1
    refine hused.trans ?_
    show (run 2833).1.gasUsed.toNat + _ = _
    rw [hfirst]
    rfl
  exact ⟨by decide, hother, houtput, herror.trans hdone, hfirst, hsecond, hleft⟩

end RetryTickets
