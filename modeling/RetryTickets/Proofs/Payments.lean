-- Actions that pay prices one after the other. The first price that is too much is
-- what such an action is refused for, and takes all that is left. The steps in
-- between have no part in gas.
import RetryTickets.Proofs.Budgets
import RetryTickets.Proofs.Refusals
import RetryTickets.Proofs.Spending

namespace RetryTickets

/-! ## Prices in a row -/

/-- On this meter, gas is short for one of these prices when they are paid one after the other. -/
inductive Meter.RunsShort : List UInt64 → Meter → Shortfall → Prop
  | here {amount : UInt64} {rest : List UInt64} {meter : Meter} (short : meter.remaining < amount) :
      RunsShort (amount :: rest) meter ⟨amount, meter.remaining⟩
  | later {amount : UInt64} {rest : List UInt64} {meter : Meter} {shortfall : Shortfall}
      (paid : amount ≤ meter.remaining) (short : RunsShort rest (meter.spend amount) shortfall) :
      RunsShort (amount :: rest) meter shortfall

theorem Meter.RunsShort.available_lt {prices : List UInt64} {meter : Meter} {shortfall : Shortfall}
    (h : RunsShort prices meter shortfall) : shortfall.available < shortfall.needed := by
  induction h with
  | here short => exact short
  | later _ _ ih => exact ih

/-! ## Actions that have no part in gas -/

/-- An error that is not for want of gas. -/
def Error.Other (error : Error) : Prop := ∀ shortfall, error ≠ .outOfGas shortfall

theorem Error.other_notFound : notFound.Other := fun _ h => nomatch h

theorem Error.other_store (fault : StoreFault) : (store fault).Other := fun _ h => nomatch h

theorem Error.other_unauthorized (caller beneficiary : Address) :
    (unauthorized caller beneficiary).Other := fun _ h => nomatch h

/-- A sink that never refuses an event for want of gas. -/
def EventSink.NeverShort (κ : Type) [EventSink κ] : Prop :=
  ∀ (event : Event) (sink : κ) (error : Error),
    (EventSink.emit event sink).1 = .error error → error.Other

theorem EventLog.neverShort : EventSink.NeverShort EventLog := fun _ _ _ h => nomatch h

namespace Action

variable {σ κ α β : Type} {s : Scene σ κ} {prices : List UInt64}

/-- An action that has no part in gas. -/
structure Quiet (x : Action σ κ α) : Prop where
  refuses : x.Refuses Error.Other
  meter : ∀ s, (x.leaves s).meter = s.meter

theorem Quiet.of_free {x : Action σ κ α} (h : x.Free) (hrefuses : x.Refuses Error.Other) : x.Quiet :=
  ⟨hrefuses, h.meter_leaves⟩

theorem Quiet.bind {x : Action σ κ α} {f : α → Action σ κ β} (hx : x.Quiet)
    (hf : ∀ a, (f a).Quiet) : (x >>= f).Quiet := by
  refine ⟨refuses_bind hx.refuses fun a => (hf a).refuses, fun s => ?_⟩
  have hfirst := hx.meter s
  cases hrun : x s with
  | ok a t =>
    rw [leaves_of_ok hrun] at hfirst
    have hrest := (hf a).meter t
    unfold leaves at hrest ⊢
    rw [bind_of_ok hrun, hrest, hfirst]
  | error error t =>
    rw [leaves_of_error hrun] at hfirst
    rw [leaves_of_error (bind_of_error hrun), hfirst]

theorem quiet_pure (a : α) : (pure a : Action σ κ α).Quiet := .of_free (.pure a) (refuses_pure a)

theorem quiet_throw {error : Error} (h : error.Other) : (throw error : Action σ κ α).Quiet :=
  .of_free (.throw error) (refuses_throw h)

theorem quiet_ask {question : σ → Except Error α}
    (h : ∀ store error, question store = .error error → error.Other) :
    (ask question : Action σ κ α).Quiet :=
  .of_free (.ask question) (refuses_ask h)

theorem quiet_change {operation : σ → Except Error α × σ}
    (h : ∀ store error, (operation store).1 = .error error → error.Other) :
    (change operation : Action σ κ α).Quiet :=
  .of_free (.change operation) (refuses_change fun store error _ hrun => h store error (hrun ▸ rfl))

theorem quiet_price (gas : UInt64) : (price (.ok gas) : Action σ κ UInt64).Quiet :=
  .of_free (.price _) fun _ _ _ h => nomatch h

theorem quiet_gasLeft : (gasLeft : Action σ κ UInt64).Quiet :=
  .of_free .gasLeft fun _ _ _ h => nomatch h

theorem quiet_tell (notice : Notice) : (tell notice : Action σ κ Unit).Quiet :=
  .of_free (.tell notice) (refuses_tell notice)

theorem quiet_offer [EventSink κ] (never : EventSink.NeverShort κ) (event : Event) :
    (offer event : Action σ κ Unit).Quiet := by
  refine .of_free (.offer event) fun s error t h => ?_
  unfold offer at h
  split at h
  · cases h
  · rename_i refused
    cases h
    exact never event s.sink error (by rw [refused])

/-! ## Actions that pay -/

/-- If gas is short for an action, it is short for one of these prices, and then all is lost. -/
def Pays (prices : List UInt64) (x : Action σ κ α) (s : Scene σ κ) : Prop :=
  ∀ shortfall t, x s = .error (.outOfGas shortfall) t →
    s.meter.RunsShort prices shortfall ∧ t.meter = s.meter.drain

theorem pays_of_refuses {x : Action σ κ α} (h : x.Refuses Error.Other) : x.Pays prices s :=
  fun shortfall t hshort => absurd rfl (h s _ t hshort shortfall)

theorem Quiet.pays_bind {x : Action σ κ α} {f : α → Action σ κ β} (hx : x.Quiet)
    (hf : ∀ a t, x s = .ok a t → (f a).Pays prices t) : (x >>= f).Pays prices s := by
  intro shortfall t h
  cases hrun : x s with
  | ok a u =>
    have hmeter := hx.meter s
    rw [leaves_of_ok hrun] at hmeter
    rw [bind_of_ok hrun] at h
    rw [← hmeter]
    exact hf a u hrun shortfall t h
  | error error u =>
    rw [bind_of_error hrun] at h
    cases h
    exact absurd rfl (hx.refuses s _ _ hrun shortfall)

/-- What comes behind a price that is paid has the other prices to pay. -/
theorem pays_charge_bind {amount : UInt64} {rest : List UInt64} {f : Unit → Action σ κ β}
    (hf : amount ≤ s.meter.remaining →
      (f ()).Pays rest { s with meter := s.meter.spend amount }) :
    (charge amount >>= f).Pays (amount :: rest) s := by
  intro shortfall t h
  by_cases hshort : s.meter.remaining < amount
  · rw [bind_of_error (charge_of_lt hshort)] at h
    cases h
    exact ⟨.here hshort, rfl⟩
  · have hpaid := UInt64.not_lt.1 hshort
    rw [bind_of_ok (charge_of_le hpaid)] at h
    obtain ⟨hrest, hdrained⟩ := hf hpaid shortfall t h
    exact ⟨.later hpaid hrest, hdrained.trans (Meter.drain_spend amount s.meter)⟩

/-- A price that is there for certain makes no difference. -/
theorem pays_enough_bind {amount : UInt64} {f : Unit → Action σ κ β}
    (henough : amount ≤ s.meter.remaining) (hf : (f ()).Refuses Error.Other) :
    (charge amount >>= f).Pays prices s := by
  intro shortfall t h
  rw [bind_of_ok (charge_of_le henough)] at h
  exact absurd rfl (hf _ _ t h shortfall)

theorem pays_ite {c : Prop} [Decidable c] {x y : Action σ κ α} (hx : c → x.Pays prices s)
    (hy : ¬ c → y.Pays prices s) : (if c then x else y).Pays prices s := by
  split
  · exact hx ‹c›
  · exact hy ‹¬ c›

/-- An event is a price, if its sink has no part in gas. -/
theorem pays_emit_bind [EventSink κ] (never : EventSink.NeverShort κ) {event : Event}
    {cost : UInt64} {rest : List UInt64} {f : Unit → Action σ κ β} (hcost : event.gasCost = cost) (hf : ∀ u t, (f u).Pays rest t) :
    (emit event >>= f).Pays (cost :: rest) s := by
  subst hcost
  unfold emit
  rw [bind_assoc]
  refine pays_charge_bind fun _ => ?_
  exact (quiet_offer never event).pays_bind fun u t _ => hf u t

end Action

end RetryTickets
