-- With which errors actions are refused. An action in steps is refused with what
-- one of its steps is refused with. A keepalive of a registry is never told that
-- a timeout lies too far ahead: the end that it asks for is the last one allowed.
import RetryTickets.Proofs.Tickets
import RetryTickets.Proofs.Actions

namespace RetryTickets

namespace Action

variable {σ κ α β : Type} {P : Error → Prop}

/-- An action that is refused with such errors only. -/
def Refuses (P : Error → Prop) (x : Action σ κ α) : Prop :=
  ∀ s error t, x s = .error error t → P error

/-! ## Steps -/

theorem refuses_pure (a : α) : (pure a : Action σ κ α).Refuses P := fun _ _ _ h => nomatch h

theorem refuses_throw {error : Error} (h : P error) : (throw error : Action σ κ α).Refuses P := by
  intro s error' t hthrow
  cases hthrow
  exact h

theorem refuses_bind {x : Action σ κ α} {f : α → Action σ κ β} (hx : x.Refuses P)
    (hf : ∀ a, (f a).Refuses P) : (x >>= f).Refuses P := by
  intro s error t h
  cases hrun : x s with
  | ok a u =>
    rw [bind_of_ok hrun] at h
    exact hf a u error t h
  | error error' u =>
    rw [bind_of_error hrun] at h
    cases h
    exact hx s _ _ hrun

/-- Nothing comes behind an error. -/
theorem refuses_throw_bind {error : Error} (h : P error) (f : α → Action σ κ β) :
    (throw error >>= f).Refuses P := by
  intro s error' t hbind
  have hthrow : (throw error : Action σ κ α) s = .error error s := rfl
  rw [bind_of_error hthrow] at hbind
  cases hbind
  exact h

theorem refuses_ite {c : Prop} [Decidable c] {x y : Action σ κ α} (hx : x.Refuses P)
    (hy : y.Refuses P) : (if c then x else y).Refuses P := by
  split
  · exact hx
  · exact hy

theorem refuses_ask {question : σ → Except Error α}
    (h : ∀ store error, question store = .error error → P error) :
    (ask question : Action σ κ α).Refuses P := by
  intro s error t hask
  unfold ask at hask
  split at hask
  · cases hask
  · rename_i refused
    cases hask
    exact h s.store error refused

theorem refuses_change {operation : σ → Except Error α × σ}
    (h : ∀ store error after, operation store = (.error error, after) → P error) :
    (change operation : Action σ κ α).Refuses P := by
  intro s error t hchange
  unfold change at hchange
  split at hchange
  · cases hchange
  · rename_i after refused
    cases hchange
    exact h s.store error after refused

theorem refuses_price (amount : Except Shortfall UInt64) (h : ∀ shortfall, P (.outOfGas shortfall)) :
    (price amount : Action σ κ UInt64).Refuses P := by
  intro s error t hprice
  unfold price at hprice
  split at hprice
  · cases hprice
  · rename_i shortfall
    cases hprice
    exact h shortfall

theorem refuses_charge (amount : UInt64) (h : ∀ shortfall, P (.outOfGas shortfall)) :
    (charge amount : Action σ κ Unit).Refuses P := by
  intro s error t hcharge
  unfold charge at hcharge
  split at hcharge
  · cases hcharge
  · rename_i shortfall _ _
    cases hcharge
    exact h shortfall

theorem refuses_tell (notice : Notice) : (tell notice : Action σ κ Unit).Refuses P :=
  fun _ _ _ h => nomatch h

/-- A log takes every event that is paid for. -/
theorem refuses_emit (event : Event) (h : ∀ shortfall, P (.outOfGas shortfall)) :
    (emit event : Action σ EventLog Unit).Refuses P :=
  refuses_bind (refuses_charge _ h) fun _ _ _ _ hoffer => nomatch hoffer

end Action

/-! ## A keepalive -/

/-- Why a keepalive is refused. -/
inductive Controller.NotKept : Error → Prop
  | notFound : NotKept .notFound
  | outOfGas (shortfall : Shortfall) : NotKept (.outOfGas shortfall)
  /-- A lifetime from now ends after the last point in time. -/
  | timeoutOverflow : NotKept (.store .timeoutOverflow)

/-- The last end that is allowed is not refused to a live ticket. -/
theorem Registry.extendExpiry_error {registry after : Registry} {id : TicketId}
    {now latest lifetime : UInt64} {error : Error} (hlatest : Gas.plus? now lifetime = some latest)
    (h : TicketStore.extendExpiry id now latest lifetime registry = (.error error, after)) :
    error = .notFound := by
  simp only [TicketStore.extendExpiry, extendExpiry, hlatest] at h
  split at h
  · cases h
    rfl
  · rw [if_neg (UInt64.lt_irrefl latest)] at h
    cases h

/-- All that is asked of a ticket that must be there is refused in one way. -/
theorem Registry.error_of_existing {α : Type} {registry : Registry} {id : TicketId}
    {question : Ticket → α} {error : Error}
    (h : (registry.existing id).map question = .error error) : error = .notFound := by
  unfold existing at h
  cases hget : registry.get? id with
  | none =>
    rw [hget] at h
    cases h
    rfl
  | some ticket =>
    rw [hget] at h
    cases h

namespace Controller

open RetryTickets.Action

theorem refuses_requireLive {κ : Type} {P : Error → Prop} (id : TicketId) (now : UInt64)
    (h : P .notFound) : (requireLive id now : Action Registry κ Unit).Refuses P := by
  refine refuses_bind (refuses_ask fun _ _ hopen => nomatch hopen) fun found => ?_
  cases found with
  | none => exact refuses_throw h
  | some ticket => exact refuses_pure ()

theorem keepalive_refuses (context : CallContext) (id : TicketId) :
    (keepalive context id : Action Registry EventLog UInt64).Refuses NotKept := by
  refine refuses_bind (refuses_ask fun _ _ hsize => nomatch hsize) fun size => ?_
  apply refuses_ite
  · exact refuses_throw_bind .notFound _
  · refine refuses_bind (refuses_price _ .outOfGas) fun cost => ?_
    refine refuses_bind (refuses_charge _ .outOfGas) fun _ => ?_
    cases hlatest : Gas.plus? context.now Ticket.lifetime with
    | none => exact refuses_throw .timeoutOverflow
    | some latest =>
      refine refuses_bind (refuses_change fun _ _ _ h => ?_) fun _ => ?_
      · rw [Registry.extendExpiry_error hlatest h]
        exact .notFound
      refine refuses_bind (refuses_requireLive id _ .notFound) fun _ => ?_
      refine refuses_bind (refuses_ask fun _ _ h => ?_) fun newTimeout => ?_
      · rw [Registry.error_of_existing h]
        exact .notFound
      refine refuses_bind (refuses_tell _) fun _ => ?_
      exact refuses_bind (refuses_emit _ .outOfGas) fun _ => refuses_pure newTimeout

end Controller

end RetryTickets
