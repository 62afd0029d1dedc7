-- Calls that are refused for want of gas, on any store that never says so of its
-- own accord. A call pays its prices one after the other, and the first one that
-- it cannot pay takes all that is left. Only a price that is too large to be told
-- takes nothing, for it is never charged.
import RetryTickets.Proofs.Donations
import RetryTickets.Proofs.Keepalives

namespace RetryTickets

/-! ## Stores that take no part -/

/-- A store that never refuses anything for want of gas. -/
structure TicketStore.NeverShort (σ : Type) [TicketStore σ] : Prop where
  openTicket : ∀ (store : σ) id now error,
    TicketStore.openTicket store id now = .error error → error.Other
  sizeBytes : ∀ (store : σ) id now error,
    TicketStore.sizeBytes store id now = .error error → error.Other
  beneficiary : ∀ (store : σ) id error,
    TicketStore.beneficiary store id = .error error → error.Other
  timeout : ∀ (store : σ) id error, TicketStore.timeout store id = .error error → error.Other
  delete : ∀ (store : σ) id error,
    (TicketStore.delete id store).1 = .error error → error.Other
  extendExpiry : ∀ (store : σ) id now newTimeout lifetime error,
    (TicketStore.extendExpiry id now newTimeout lifetime store).1 = .error error → error.Other
  incrementAttempt : ∀ (store : σ) id error,
    (TicketStore.incrementAttempt id store).1 = .error error → error.Other

/-- A registry refuses for want of a ticket or of room. -/
theorem Registry.neverShort : TicketStore.NeverShort Registry where
  openTicket _ _ _ _ h := nomatch h
  sizeBytes _ _ _ _ h := nomatch h
  beneficiary registry id error h := Registry.error_of_existing h ▸ Error.other_notFound
  timeout registry id error h := Registry.error_of_existing h ▸ Error.other_notFound
  delete registry id error h := by
    simp only [TicketStore.delete, delete] at h
    split at h
    · cases h
    · cases h
      exact Error.other_notFound
  extendExpiry registry id now newTimeout lifetime error h := by
    simp only [TicketStore.extendExpiry, extendExpiry] at h
    split at h
    · cases h
      exact Error.other_store _
    split at h
    · cases h
      exact Error.other_notFound
    split at h
    · cases h
      exact Error.other_store _
    · cases h
  incrementAttempt registry id error h := by
    simp only [TicketStore.incrementAttempt, incrementAttempt] at h
    split at h
    · cases h
      exact Error.other_notFound
    split at h
    · cases h
      exact Error.other_store _
    · cases h

namespace Bench.SwitchedStore

variable {store : SwitchedStore} {operation : StoreOperation} {α : Type} {error : Error}

theorem other_ask {answer : Except Error α} (h : ∀ error, answer = .error error → error.Other)
    (hask : store.ask operation answer = .error error) : error.Other := by
  unfold ask at hask
  split at hask
  · cases hask
    exact Error.other_store _
  · exact h error hask

theorem other_change {run : Registry → Except Error α × Registry}
    (h : ∀ registry error, (run registry).1 = .error error → error.Other)
    (hchange : (store.change operation run).1 = .error error) : error.Other := by
  unfold change at hchange
  split at hchange
  · cases hchange
    exact Error.other_store _
  · exact h store.registry error hchange

theorem error_of_override {value : Option UInt64} {answer : Except Error UInt64}
    (h : override value answer = .error error) : answer = .error error := by
  cases answer with
  | ok given => cases h
  | error stop =>
    cases h
    rfl

theorem neverShort : TicketStore.NeverShort SwitchedStore where
  openTicket store id now error := other_ask fun error h => by
    split at h
    · cases h
    · exact Registry.neverShort.openTicket _ id now error h
  sizeBytes store id now error := other_ask fun error h =>
    Registry.neverShort.sizeBytes _ id now error (error_of_override h)
  beneficiary store id error := other_ask (Registry.neverShort.beneficiary _ id)
  timeout store id error := other_ask fun error h =>
    Registry.neverShort.timeout _ id error (error_of_override h)
  delete store id error := other_change fun registry => Registry.neverShort.delete registry id
  extendExpiry store id now newTimeout lifetime error := other_change fun registry =>
    Registry.neverShort.extendExpiry registry id now newTimeout lifetime
  incrementAttempt store id error h :=
    other_change (fun registry => Registry.neverShort.incrementAttempt registry id)
      (error_of_override h)

end Bench.SwitchedStore

/-! ## The prices of a call -/

/-- The prices that a call pays one after the other, if it comes that far. The first of a keepalive
and of a redeem goes by the size that the store tells. An attempt pays for its answer out of what
is left: it is charged only if it is too much. -/
inductive Call.Bill {σ : Type} [TicketStore σ] (store : σ) (now : UInt64) :
    Call → List UInt64 → Prop
  | cancel {id : TicketId} : Bill store now (.cancel id) [EventKind.canceled.gasCost]
  | keepalive {id : TicketId} {size price : UInt64}
      (told : TicketStore.sizeBytes store id now = .ok size)
      (priced : Gas.keepalive size = .ok price) :
      Bill store now (.keepalive id) [price, EventKind.extended.gasCost]
  | redeem {id : TicketId} {size price : UInt64}
      (told : TicketStore.sizeBytes store id now = .ok size)
      (priced : Gas.redeemRead size = .ok price) :
      Bill store now (.redeem id) [price, EventKind.scheduled.gasCost, Gas.returnEncoding]

/-- A call whose first price, by the size that the store tells, does not fit. -/
def Call.Overpriced {σ : Type} [TicketStore σ] (store : σ) (now : UInt64) : Call → Prop
  | keepalive id => ∃ size, TicketStore.sizeBytes store id now = .ok size ∧
      2 ^ 64 ≤ 20000 * wordsOf size.toNat
  | redeem id => ∃ size, TicketStore.sizeBytes store id now = .ok size ∧
      2 ^ 64 ≤ 50 * wordsOf size.toNat
  | _ => False

namespace Controller

open RetryTickets.Action

variable {σ : Type} [TicketStore σ] {s : Scene σ EventLog} {context : CallContext} {id : TicketId}
  {size cost : UInt64}

theorem quiet_requireLive (never : TicketStore.NeverShort σ) (id : TicketId) (now : UInt64) :
    (requireLive id now : Action σ EventLog Unit).Quiet := by
  refine (quiet_ask fun store => never.openTicket store id now).bind fun found => ?_
  cases found with
  | none => exact quiet_throw Error.other_notFound
  | some ticket => exact quiet_pure ()

theorem pays_cancel (never : TicketStore.NeverShort σ) :
    (cancel context id : Action σ EventLog Unit).Pays [EventKind.canceled.gasCost] s := by
  refine (quiet_requireLive never id _).pays_bind fun _ _ _ => ?_
  refine (quiet_ask fun store => never.beneficiary store id).pays_bind fun beneficiary _ _ => ?_
  apply pays_ite
  · exact fun _ => pays_of_refuses (refuses_throw_bind (Error.other_unauthorized _ _) _)
  · intro _
    refine (quiet_change fun store => never.delete store id).pays_bind fun _ _ _ => ?_
    refine (quiet_tell _).pays_bind fun _ _ _ => ?_
    exact pays_charge_bind fun _ => pays_of_refuses (quiet_offer EventLog.neverShort _).refuses

theorem pays_keepalive (never : TicketStore.NeverShort σ)
    (hsize : TicketStore.sizeBytes s.store id context.now = .ok size)
    (hprice : Gas.keepalive size = .ok cost) :
    (keepalive context id : Action σ EventLog UInt64).Pays
      [cost, EventKind.extended.gasCost] s := by
  refine (quiet_ask fun store => never.sizeBytes store id _).pays_bind fun told _ htold => ?_
  obtain ⟨htold, rfl⟩ := ask_ok_iff.1 htold
  cases hsize.symm.trans htold
  apply pays_ite
  · exact fun _ => pays_of_refuses (refuses_throw_bind Error.other_notFound _)
  · intro _
    rw [hprice]
    refine (quiet_price cost).pays_bind fun charged _ hcharged => ?_
    cases (price_ok_iff.1 hcharged).1
    refine pays_charge_bind fun _ => ?_
    cases Gas.plus? context.now Ticket.lifetime with
    | none => exact pays_of_refuses (refuses_throw (Error.other_store _))
    | some latest =>
      refine (quiet_change fun store => never.extendExpiry store id _ _ _).pays_bind fun _ _ _ => ?_
      refine (quiet_requireLive never id _).pays_bind fun _ _ _ => ?_
      refine (quiet_ask fun store => never.timeout store id).pays_bind fun newTimeout _ _ => ?_
      refine (quiet_tell _).pays_bind fun _ _ _ => ?_
      refine pays_emit_bind EventLog.neverShort rfl fun _ _ => ?_
      exact pays_of_refuses (refuses_pure newTimeout)

/-- The reading is paid for before anything is known of the ticket. -/
theorem pays_redeem (never : TicketStore.NeverShort σ)
    (hsize : TicketStore.sizeBytes s.store id context.now = .ok size)
    (hprice : Gas.redeemRead size = .ok cost) :
    (redeem context id : Action σ EventLog TicketId).Pays
      [cost, EventKind.scheduled.gasCost, Gas.returnEncoding] s := by
  rw [redeem_eq]
  refine (quiet_ask fun store => never.sizeBytes store id _).pays_bind fun told _ htold => ?_
  obtain ⟨htold, rfl⟩ := ask_ok_iff.1 htold
  cases hsize.symm.trans htold
  rw [hprice]
  refine (quiet_price cost).pays_bind fun charged _ hcharged => ?_
  cases (price_ok_iff.1 hcharged).1
  refine pays_charge_bind fun _ => ?_
  refine (quiet_requireLive never id _).pays_bind fun _ _ _ => ?_
  refine (quiet_change fun store => never.incrementAttempt store id).pays_bind fun _ _ _ => ?_
  exact pays_donate EventLog.neverShort

end Controller

namespace Call

open RetryTickets.Action

variable {σ : Type} [TicketStore σ] {s : Scene σ EventLog} {context : CallContext} {call : Call}

/-- A price that does not fit is never charged. -/
theorem act_of_overpriced (h : call.Overpriced s.store context.now) :
    call.act context s = .error (.outOfGas Gas.unpayable) s := by
  cases call with
  | keepalive id =>
    obtain ⟨size, hsize, hlarge⟩ := h
    have hsome : size ≠ 0 := by
      rintro rfl
      exact absurd hlarge (by decide)
    have hprice : Gas.keepalive size = .error Gas.unpayable := by
      rw [Gas.keepalive_eq, if_neg (Nat.not_lt.2 hlarge)]
    have hstop : price (Gas.keepalive size) s = .error (.outOfGas Gas.unpayable) s := by
      rw [hprice]
      rfl
    have hkeepalive := (Controller.keepalive_of_sized hsize hsome).trans (bind_of_error hstop)
    exact bind_of_error hkeepalive
  | redeem id =>
    obtain ⟨size, hsize, hlarge⟩ := h
    have hprice : Gas.redeemRead size = .error Gas.unpayable := by
      rw [Gas.redeemRead_eq, if_neg (Nat.not_lt.2 hlarge)]
    have hstop : price (Gas.redeemRead size) s = .error (.outOfGas Gas.unpayable) s := by
      rw [hprice]
      rfl
    have hredeem : Controller.redeem context id s = .error (.outOfGas Gas.unpayable) s := by
      rw [Controller.redeem_eq, bind_of_ok (ask_ok_iff.2 ⟨hsize, rfl⟩)]
      exact bind_of_error hstop
    exact bind_of_error hredeem
  | _ => cases h

/-- A store that does not tell a size refuses with an error of its own. -/
theorem told_of_short {α : Type} (never : TicketStore.NeverShort σ) {id : TicketId}
    {f : UInt64 → Action σ EventLog α} {shortfall : Shortfall} {t : Scene σ EventLog}
    (h : (ask (fun store => TicketStore.sizeBytes store id context.now) >>= f) s =
      .error (.outOfGas shortfall) t) :
    ∃ size, TicketStore.sizeBytes s.store id context.now = .ok size := by
  cases hsize : TicketStore.sizeBytes s.store id context.now with
  | ok size => exact ⟨size, rfl⟩
  | error error =>
    have hstop : ask (fun store => TicketStore.sizeBytes store id context.now) s =
        .error error s := by
      simp only [ask, hsize]
    rw [bind_of_error hstop] at h
    cases h
    exact absurd rfl (never.sizeBytes _ _ _ _ hsize shortfall)

theorem pays_act (never : TicketStore.NeverShort σ)
    (hfits : ¬ call.Overpriced s.store context.now) {shortfall : Shortfall} {t : Scene σ EventLog}
    (h : call.act context s = .error (.outOfGas shortfall) t) :
    ∃ bill, call.Bill s.store context.now bill ∧ s.meter.RunsShort bill shortfall ∧
      t.meter = s.meter.drain := by
  cases call with
  | cancel id => exact ⟨_, .cancel, Controller.pays_cancel never _ _ (error_of_map h)⟩
  | getBeneficiary id =>
    have hquiet : (Controller.beneficiary context id : Action σ EventLog Address).Quiet :=
      (Controller.quiet_requireLive never id _).bind fun _ =>
        quiet_ask fun store => never.beneficiary store id
    exact absurd rfl (hquiet.refuses _ _ _ (error_of_map h) shortfall)
  | getLifetime => cases h
  | getTimeout id =>
    have hquiet : (Controller.timeout context id : Action σ EventLog UInt64).Quiet :=
      (Controller.quiet_requireLive never id _).bind fun _ =>
        quiet_ask fun store => never.timeout store id
    exact absurd rfl (hquiet.refuses _ _ _ (error_of_map h) shortfall)
  | keepalive id =>
    have hshort := error_of_map h
    obtain ⟨size, hsize⟩ := told_of_short never hshort
    have hprice := Gas.keepalive_eq size
    rw [if_pos (Nat.not_le.1 fun hlarge => hfits ⟨size, hsize, hlarge⟩)] at hprice
    exact ⟨_, .keepalive hsize hprice, Controller.pays_keepalive never hsize hprice _ _ hshort⟩
  | redeem id =>
    have hshort := error_of_map h
    obtain ⟨size, hsize⟩ := told_of_short never hshort
    have hprice := Gas.redeemRead_eq size
    rw [if_pos (Nat.not_le.1 fun hlarge => hfits ⟨size, hsize, hlarge⟩)] at hprice
    exact ⟨_, .redeem hsize hprice, Controller.pays_redeem never hsize hprice _ _ hshort⟩

end Call

/-- A call is refused with what its trial is refused with. -/
theorem Dispatch.error_execute {σ κ : Type} [TicketStore σ] [EventSink κ] (request : Call)
    (context : CallContext) (scene : Scene σ κ) :
    (execute request context scene).1.error =
      match request.act context scene.trial with
      | .ok _ _ => none
      | .error error _ => some error := by
  unfold execute
  cases h : request.act context scene.trial with
  | ok output done =>
    unfold Scene.trial at h
    simp only [h]
  | error error stopped =>
    unfold Scene.trial at h
    simp only [h]

/-! ## The law -/

/-- On a store that never says so of its own accord, a call that is refused for want of gas has
lost all of it, and is told what was left for the first of its prices that it could not pay. If it
has a price that does not fit, it is told that nobody can pay it, and has lost nothing. -/
theorem want_of_gas_takes_all_that_is_left {σ κ : Type} [TicketStore σ] [EventSink κ]
    (never : TicketStore.NeverShort σ) (call : Call) (context : CallContext) (scene : Scene σ κ) :
    let (receipt, after) := Dispatch.execute call context scene
    (call.Overpriced scene.store context.now →
      receipt.error = some (.outOfGas Gas.unpayable) ∧ receipt.gasUsed = 0 ∧
        after.meter = scene.meter) ∧
    (¬ call.Overpriced scene.store context.now →
      ∀ shortfall, receipt.error = some (.outOfGas shortfall) →
        (∃ bill, call.Bill scene.store context.now bill ∧ scene.meter.RunsShort bill shortfall) ∧
        shortfall.available < shortfall.needed ∧ receipt.gasUsed = scene.meter.remaining ∧
        after.meter.remaining = 0) := by
  obtain ⟨hmeter, hused⟩ := Dispatch.execute_meter call context scene
  have herror := Dispatch.error_execute call context scene
  constructor
  · intro hlarge
    have hact := Call.act_of_overpriced (s := scene.trial) hlarge
    rw [hact] at herror
    rw [Action.leaves_of_error hact] at hmeter
    rw [hmeter] at hused
    exact ⟨herror, hused.trans (UInt64.sub_self _), hmeter⟩
  · intro hfits shortfall hshort
    cases hact : call.act context scene.trial with
    | ok output done =>
      rw [hact] at herror
      cases herror.symm.trans hshort
    | error error stopped =>
      rw [hact] at herror
      cases herror.symm.trans hshort
      obtain ⟨bill, hbill, hruns, hdrained⟩ := Call.pays_act never hfits hact
      rw [Action.leaves_of_error hact, hdrained] at hmeter
      rw [hmeter] at hused
      have hall : scene.meter.drain.burned - scene.meter.burned = scene.meter.remaining := by
        show scene.meter.burned + scene.meter.remaining - scene.meter.burned = _
        grind
      exact ⟨⟨bill, hbill, hruns⟩, hruns.available_lt, hused.trans hall,
        congrArg Meter.remaining hmeter⟩

/-- With ten units a plain ticket cannot even be kept for its price. -/
theorem a_plain_keepalive_loses_ten :
    let scene : Scene Registry EventLog := ⟨.put .zero .plain .empty, .empty, .ofLimit 10, []⟩
    let (receipt, after) := Dispatch.execute (.keepalive .zero) ⟨.zero, 99⟩ scene
    TicketStore.NeverShort Registry ∧ ¬ (Call.keepalive .zero).Overpriced scene.store 99 ∧
      receipt.error = some (.outOfGas ⟨1400, 10⟩) ∧ receipt.gasUsed = 10 ∧
      after.meter.remaining = 0 := by
  intro scene
  have hlaw := want_of_gas_takes_all_that_is_left Registry.neverShort (.keepalive .zero)
    ⟨.zero, 99⟩ scene
  have hfits : ¬ (Call.keepalive .zero).Overpriced scene.store 99 := by
    rintro ⟨size, hsize, hlarge⟩
    cases hsize
    exact absurd hlarge (by decide)
  have hshort : (Dispatch.execute (.keepalive .zero) ⟨.zero, 99⟩ scene).1.error =
      some (.outOfGas ⟨1400, 10⟩) := by decide
  obtain ⟨_, _, hused, hleft⟩ := hlaw.2 hfits ⟨1400, 10⟩ hshort
  exact ⟨Registry.neverShort, hfits, hshort, hused, hleft⟩

/-- A store that tells the largest size makes a keepalive fail for want of gas, and not a unit of
its gas is gone. -/
theorem the_largest_size_costs_nothing :
    let store : Bench.SwitchedStore :=
      ⟨.put .zero .plain .empty, { Bench.Switches.off with sizeBytes := some 18446744073709551615 }⟩
    let scene : Scene Bench.SwitchedStore EventLog := ⟨store, .empty, .ofLimit 1000, []⟩
    let (receipt, after) := Dispatch.execute (.keepalive .zero) ⟨.zero, 0⟩ scene
    TicketStore.NeverShort Bench.SwitchedStore ∧
      receipt.error = some (.outOfGas ⟨18446744073709551615, 0⟩) ∧ receipt.gasUsed = 0 ∧
      after.meter.remaining = 1000 :=
  ⟨Bench.SwitchedStore.neverShort, rfl, rfl, rfl⟩

end RetryTickets
