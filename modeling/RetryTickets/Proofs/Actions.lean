-- How actions go through. An action in steps goes through just when each of
-- its steps does, and each step then says what it changed. Callers read a
-- success off these laws and never open the steps themselves.
import RetryTickets.Dispatch

namespace RetryTickets

/-- What a charge that is met leaves on a meter. -/
def Meter.spend (amount : UInt64) (meter : Meter) : Meter :=
  ⟨meter.remaining - amount, meter.burned + amount⟩

/-- What a charge that is not met leaves on a meter. -/
def Meter.drain (meter : Meter) : Meter := ⟨0, meter.burned + meter.remaining⟩

namespace Action

variable {σ κ α β : Type} {s t : Scene σ κ}

/-! ## Steps in a row -/

@[simp] theorem pure_ok_iff {a b : α} :
    (pure a : Action σ κ α) s = .ok b t ↔ a = b ∧ t = s := by
  show EStateM.Result.ok a s = .ok b t ↔ _
  simp [eq_comm]

@[simp] theorem throw_ok_iff {error : Error} {a : α} :
    (throw error : Action σ κ α) s = .ok a t ↔ False := by
  show EStateM.Result.error error s = .ok a t ↔ _
  simp

@[simp] theorem bind_ok_iff {x : Action σ κ α} {f : α → Action σ κ β} {b : β} :
    (x >>= f) s = .ok b t ↔ ∃ a u, x s = .ok a u ∧ f a u = .ok b t := by
  show EStateM.bind x f s = .ok b t ↔ _
  unfold EStateM.bind
  cases x s with
  | ok a u =>
    constructor
    · intro h
      exact ⟨a, u, rfl, h⟩
    · rintro ⟨_, _, h, hf⟩
      cases h
      exact hf
  | error e u => simp

theorem bind_of_ok {x : Action σ κ α} {f : α → Action σ κ β} {a : α} (h : x s = .ok a t) :
    (x >>= f) s = f a t := by
  show EStateM.bind x f s = _
  unfold EStateM.bind
  rw [h]

/-- What a refused first step leaves is what the whole action leaves. -/
theorem bind_of_error {x : Action σ κ α} {f : α → Action σ κ β} {error : Error}
    (h : x s = .error error t) : (x >>= f) s = .error error t := by
  show EStateM.bind x f s = _
  unfold EStateM.bind
  rw [h]

/-- An answer that is only put differently is not what is refused. -/
theorem error_of_map {x : Action σ κ α} {f : α → β} {error : Error}
    (h : (x >>= fun a => pure (f a)) s = .error error t) : x s = .error error t := by
  cases hrun : x s with
  | ok a u =>
    rw [bind_of_ok hrun] at h
    cases h
  | error stop u =>
    rw [bind_of_error hrun] at h
    cases h
    rfl

@[simp] theorem ite_ok_iff {c : Prop} [Decidable c] {x y : Action σ κ α} {a : α} :
    (if c then x else y) s = .ok a t ↔ (c ∧ x s = .ok a t) ∨ (¬ c ∧ y s = .ok a t) := by
  by_cases h : c <;> simp [h]

/-! ## Single steps -/

@[simp] theorem ask_ok_iff {question : σ → Except Error α} {a : α} :
    ask question s = .ok a t ↔ question s.store = .ok a ∧ t = s := by
  unfold ask
  cases question s.store with
  | ok answer => simp [eq_comm]
  | error e => simp

@[simp] theorem change_ok_iff {operation : σ → Except Error α × σ} {a : α} :
    change operation s = .ok a t ↔
      ∃ store, operation s.store = (.ok a, store) ∧ t = { s with store := store } := by
  unfold change
  rcases operation s.store with ⟨e | answer, store⟩
  · simp
  · constructor
    · intro h
      cases h
      exact ⟨store, rfl, rfl⟩
    · rintro ⟨_, h, rfl⟩
      cases h
      rfl

@[simp] theorem price_ok_iff {amount : Except Shortfall UInt64} {gas : UInt64} :
    price amount s = .ok gas t ↔ amount = .ok gas ∧ t = s := by
  unfold price
  cases amount with
  | ok gas => simp [eq_comm]
  | error e => simp

@[simp] theorem charge_ok_iff {amount : UInt64} {u : Unit} :
    charge amount s = .ok u t ↔
      amount ≤ s.meter.remaining ∧ t = { s with meter := s.meter.spend amount } := by
  unfold charge Meter.burn
  split
  · rename_i hburn
    split at hburn
    · cases hburn
    · rename_i henough
      cases hburn
      simp [UInt64.not_lt.1 henough, Meter.spend, eq_comm]
  · rename_i hburn
    split at hburn
    · rename_i hshort
      cases hburn
      simp [UInt64.not_le.2 hshort]
    · cases hburn

theorem charge_of_le {amount : UInt64} (h : amount ≤ s.meter.remaining) :
    charge amount s = .ok () { s with meter := s.meter.spend amount } :=
  charge_ok_iff.2 ⟨h, rfl⟩

theorem charge_of_lt {amount : UInt64} (h : s.meter.remaining < amount) :
    charge amount s =
      .error (.outOfGas ⟨amount, s.meter.remaining⟩) { s with meter := s.meter.drain } := by
  simp only [charge, Meter.burn, if_pos h, Meter.drain]

@[simp] theorem gasLeft_ok_iff {gas : UInt64} :
    gasLeft s = .ok gas t ↔ gas = s.meter.remaining ∧ t = s := by
  simp [gasLeft, eq_comm]

@[simp] theorem tell_ok_iff {notice : Notice} {u : Unit} :
    tell notice s = .ok u t ↔ t = { s with notices := s.notices ++ [notice] } := by
  simp [tell, eq_comm]

/-- A log takes every event. -/
@[simp] theorem offer_ok_iff {s t : Scene σ EventLog} {event : Event} {u : Unit} :
    offer event s = .ok u t ↔ t = { s with sink := s.sink.push event } := by
  show EStateM.Result.ok () { s with sink := s.sink.push event } = .ok u t ↔ _
  simp [eq_comm]

@[simp] theorem emit_ok_iff {s t : Scene σ EventLog} {event : Event} {u : Unit} :
    emit event s = .ok u t ↔ event.gasCost ≤ s.meter.remaining ∧
      t = { s with meter := s.meter.spend event.gasCost, sink := s.sink.push event } := by
  simp only [emit, bind_ok_iff, offer_ok_iff]
  constructor
  · rintro ⟨_, _, hcharge, rfl⟩
    obtain ⟨henough, rfl⟩ := charge_ok_iff.1 hcharge
    exact ⟨henough, rfl⟩
  · rintro ⟨henough, rfl⟩
    exact ⟨(), _, charge_ok_iff.2 ⟨henough, rfl⟩, rfl⟩

/-- An event that cannot be paid for is not offered. -/
theorem emit_of_lt [EventSink κ] {event : Event} {cost : UInt64} (hcost : event.gasCost = cost)
    (h : s.meter.remaining < cost) :
    emit event s = .error (.outOfGas ⟨cost, s.meter.remaining⟩) { s with meter := s.meter.drain } := by
  subst hcost
  exact bind_of_error (charge_of_lt h)

theorem emit_of_le {s : Scene σ EventLog} {event : Event} {cost : UInt64}
    (hcost : event.gasCost = cost) (h : cost ≤ s.meter.remaining) :
    emit event s =
      .ok () { s with meter := s.meter.spend cost, sink := s.sink.push event } := by
  subst hcost
  exact emit_ok_iff.2 ⟨h, rfl⟩

@[simp] theorem requireLive_ok_iff [TicketStore σ] {id : TicketId} {now : UInt64} {u : Unit} :
    Controller.requireLive id now s = .ok u t ↔
      (∃ ticket, TicketStore.openTicket s.store id now = .ok (some ticket)) ∧ t = s := by
  simp only [Controller.requireLive, bind_ok_iff, ask_ok_iff]
  constructor
  · rintro ⟨_ | ticket, _, ⟨hopen, rfl⟩, h⟩
    · simp at h
    · simp only [pure_ok_iff, true_and] at h
      exact ⟨⟨ticket, hopen⟩, h⟩
  · rintro ⟨⟨ticket, hopen⟩, rfl⟩
    exact ⟨some ticket, t, ⟨hopen, rfl⟩, by simp⟩

end Action

end RetryTickets
