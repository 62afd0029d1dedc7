-- Calls on two scenes. Where the sinks and the meters are the same and the
-- stores are related, a call ends alike as long as related stores answer the
-- same about its ticket and stay related. The notices play no part.
import RetryTickets.Controller

namespace RetryTickets

namespace Action

variable {σ κ σ' κ' α β : Type}

/-! ## Actions that end alike -/

/-- Both actions go through with the same answer or are refused for the same reason, and related
scenes stay related. -/
def Agree (R : Scene σ κ → Scene σ' κ' → Prop) (x : Action σ κ α) (y : Action σ' κ' α) : Prop :=
  ∀ s s', R s s' →
    (∃ a t t', x s = .ok a t ∧ y s' = .ok a t' ∧ R t t') ∨
      ∃ error t t', x s = .error error t ∧ y s' = .error error t' ∧ R t t'

section Rules

variable {R : Scene σ κ → Scene σ' κ' → Prop}

theorem agree_pure (a : α) : Agree R (pure a : Action σ κ α) (pure a : Action σ' κ' α) :=
  fun s s' h => Or.inl ⟨a, s, s', rfl, rfl, h⟩

theorem agree_throw (error : Error) :
    Agree R (throw error : Action σ κ α) (throw error : Action σ' κ' α) :=
  fun s s' h => Or.inr ⟨error, s, s', rfl, rfl, h⟩

theorem agree_bind {x : Action σ κ α} {y : Action σ' κ' α} {f : α → Action σ κ β}
    {g : α → Action σ' κ' β} (hx : Agree R x y) (hf : ∀ a, Agree R (f a) (g a)) :
    Agree R (x >>= f) (y >>= g) := by
  intro s s' h
  have hopen : (x >>= f) s = EStateM.bind x f s := rfl
  have hopen' : (y >>= g) s' = EStateM.bind y g s' := rfl
  rw [hopen, hopen']
  unfold EStateM.bind
  rcases hx s s' h with ⟨a, t, t', hs, hs', ht⟩ | ⟨error, t, t', hs, hs', ht⟩
  · rw [hs, hs']
    exact hf a t t' ht
  · rw [hs, hs']
    exact Or.inr ⟨error, t, t', rfl, rfl, ht⟩

/-- After a refusal it does not matter what would have come. -/
theorem agree_throw_bind (error : Error) (f : α → Action σ κ β) (g : α → Action σ' κ' β) :
    Agree R (throw error >>= f) (throw error >>= g) :=
  fun s s' h => Or.inr ⟨error, s, s', rfl, rfl, h⟩

theorem agree_ite {c : Prop} [Decidable c] {x x' : Action σ κ α} {y y' : Action σ' κ' α}
    (hx : Agree R x y) (hx' : Agree R x' y') :
    Agree R (if c then x else x') (if c then y else y') := by
  split
  · exact hx
  · exact hx'

end Rules

end Action

/-! ## Scenes with related stores -/

/-- Scenes with related stores, and with the same sink and the same meter. -/
structure Scene.Paired {σ κ σ' : Type} (S : σ → σ' → Prop) (s : Scene σ κ) (t : Scene σ' κ) :
    Prop where
  store : S s.store t.store
  sink : s.sink = t.sink
  meter : s.meter = t.meter

/-- Related stores answer the same about a ticket and stay related. -/
structure AlikeAbout {σ σ' : Type} [TicketStore σ] [TicketStore σ'] (S : σ → σ' → Prop)
    (id : TicketId) : Prop where
  openTicket : ∀ store store' now, S store store' →
    TicketStore.openTicket store id now = TicketStore.openTicket store' id now
  sizeBytes : ∀ store store' now, S store store' →
    TicketStore.sizeBytes store id now = TicketStore.sizeBytes store' id now
  beneficiary : ∀ store store', S store store' →
    TicketStore.beneficiary store id = TicketStore.beneficiary store' id
  timeout : ∀ store store', S store store' →
    TicketStore.timeout store id = TicketStore.timeout store' id
  delete : ∀ store store', S store store' →
    (TicketStore.delete id store).1 = (TicketStore.delete id store').1 ∧
      S (TicketStore.delete id store).2 (TicketStore.delete id store').2
  extendExpiry : ∀ store store' now newTimeout lifetime, S store store' →
    (TicketStore.extendExpiry id now newTimeout lifetime store).1 =
        (TicketStore.extendExpiry id now newTimeout lifetime store').1 ∧
      S (TicketStore.extendExpiry id now newTimeout lifetime store).2
        (TicketStore.extendExpiry id now newTimeout lifetime store').2
  incrementAttempt : ∀ store store', S store store' →
    (TicketStore.incrementAttempt id store).1 = (TicketStore.incrementAttempt id store').1 ∧
      S (TicketStore.incrementAttempt id store).2 (TicketStore.incrementAttempt id store').2

namespace Action

variable {σ κ σ' α : Type} {S : σ → σ' → Prop}

theorem agree_ask {question : σ → Except Error α} {question' : σ' → Except Error α}
    (h : ∀ store store', S store store' → question store = question' store') :
    Agree (Scene.Paired S) (ask question : Action σ κ α) (ask question') := by
  intro s s' paired
  unfold ask
  rw [h _ _ paired.store]
  cases question' s'.store with
  | ok answer => exact Or.inl ⟨answer, s, s', rfl, rfl, paired⟩
  | error error => exact Or.inr ⟨error, s, s', rfl, rfl, paired⟩

theorem agree_change {operation : σ → Except Error α × σ} {operation' : σ' → Except Error α × σ'}
    (h : ∀ store store', S store store' →
      (operation store).1 = (operation' store').1 ∧ S (operation store).2 (operation' store').2) :
    Agree (Scene.Paired S) (change operation : Action σ κ α) (change operation') := by
  intro s s' paired
  have hboth := h _ _ paired.store
  unfold change
  generalize operation s.store = done at hboth ⊢
  generalize operation' s'.store = done' at hboth ⊢
  obtain ⟨answer, store⟩ := done
  obtain ⟨answer', store'⟩ := done'
  obtain ⟨rfl, hstore⟩ := hboth
  cases answer with
  | ok answer => exact Or.inl ⟨answer, _, _, rfl, rfl, ⟨hstore, paired.sink, paired.meter⟩⟩
  | error error => exact Or.inr ⟨error, _, _, rfl, rfl, ⟨hstore, paired.sink, paired.meter⟩⟩

theorem agree_price (amount : Except Shortfall UInt64) :
    Agree (Scene.Paired S) (price amount : Action σ κ UInt64) (price amount) := by
  intro s s' h
  unfold price
  cases amount with
  | ok gas => exact Or.inl ⟨gas, s, s', rfl, rfl, h⟩
  | error shortfall => exact Or.inr ⟨.outOfGas shortfall, s, s', rfl, rfl, h⟩

theorem agree_charge (amount : UInt64) :
    Agree (Scene.Paired S) (charge amount : Action σ κ Unit) (charge amount) := by
  intro s s' h
  unfold charge
  rw [h.meter]
  rcases s'.meter.burn amount with ⟨shortfall | u, meter⟩
  · exact Or.inr ⟨.outOfGas shortfall, _, _, rfl, rfl, ⟨h.store, h.sink, rfl⟩⟩
  · exact Or.inl ⟨u, _, _, rfl, rfl, ⟨h.store, h.sink, rfl⟩⟩

theorem agree_gasLeft : Agree (Scene.Paired S) (gasLeft : Action σ κ UInt64) gasLeft := by
  intro s s' h
  unfold gasLeft
  rw [h.meter]
  exact Or.inl ⟨_, s, s', rfl, rfl, h⟩

theorem agree_tell (notice : Notice) :
    Agree (Scene.Paired S) (tell notice : Action σ κ Unit) (tell notice) :=
  fun _ _ h => Or.inl ⟨(), _, _, rfl, rfl, ⟨h.store, h.sink, h.meter⟩⟩

variable [EventSink κ]

theorem agree_offer (event : Event) :
    Agree (Scene.Paired S) (offer event : Action σ κ Unit) (offer event) := by
  intro s s' h
  unfold offer
  rw [h.sink]
  rcases EventSink.emit event s'.sink with ⟨error | u, sink⟩
  · exact Or.inr ⟨error, _, _, rfl, rfl, ⟨h.store, rfl, h.meter⟩⟩
  · exact Or.inl ⟨u, _, _, rfl, rfl, ⟨h.store, rfl, h.meter⟩⟩

theorem agree_emit (event : Event) :
    Agree (Scene.Paired S) (emit event : Action σ κ Unit) (emit event) :=
  agree_bind (agree_charge _) fun _ => agree_offer event

end Action

/-! ## Calls -/

namespace Controller

open RetryTickets.Action

variable {σ κ σ' : Type} [TicketStore σ] [TicketStore σ'] {S : σ → σ' → Prop} {id : TicketId}

theorem agree_requireLive (h : AlikeAbout S id) (now : UInt64) :
    Agree (Scene.Paired S) (requireLive id now : Action σ κ Unit) (requireLive id now) := by
  apply agree_bind (agree_ask fun store store' => h.openTicket store store' now)
  intro found
  cases found with
  | none => exact agree_throw _
  | some ticket => exact agree_pure _

variable [EventSink κ]

theorem agree_cancel (h : AlikeAbout S id) (context : CallContext) :
    Agree (Scene.Paired S) (cancel context id : Action σ κ Unit) (cancel context id) := by
  apply agree_bind (agree_requireLive h context.now)
  intro _
  apply agree_bind (agree_ask h.beneficiary)
  intro beneficiary
  apply agree_ite
  · exact agree_throw_bind _ _ _
  · apply agree_bind (agree_change h.delete)
    intro _
    apply agree_bind (agree_tell _)
    intro _
    exact agree_emit _

theorem agree_keepalive (h : AlikeAbout S id) (context : CallContext) :
    Agree (Scene.Paired S) (keepalive context id : Action σ κ UInt64) (keepalive context id) := by
  apply agree_bind (agree_ask fun store store' => h.sizeBytes store store' context.now)
  intro size
  apply agree_ite
  · exact agree_throw_bind _ _ _
  · apply agree_bind (agree_price _)
    intro cost
    apply agree_bind (agree_charge cost)
    intro _
    cases Gas.plus? context.now Ticket.lifetime with
    | none => exact agree_throw _
    | some latest =>
      apply agree_bind (agree_change fun store store' =>
        h.extendExpiry store store' context.now latest _)
      intro _
      apply agree_bind (agree_requireLive h context.now)
      intro _
      apply agree_bind (agree_ask h.timeout)
      intro newTimeout
      apply agree_bind (agree_tell _)
      intro _
      apply agree_bind (agree_emit _)
      intro _
      exact agree_pure newTimeout

theorem agree_redeem (h : AlikeAbout S id) (context : CallContext) :
    Agree (Scene.Paired S) (redeem context id : Action σ κ TicketId) (redeem context id) := by
  apply agree_bind (agree_ask fun store store' => h.sizeBytes store store' context.now)
  intro size
  apply agree_bind (agree_price _)
  intro cost
  apply agree_bind (agree_charge cost)
  intro _
  apply agree_bind (agree_requireLive h context.now)
  intro _
  apply agree_bind (agree_change h.incrementAttempt)
  intro sequence
  apply agree_bind agree_gasLeft
  intro donated
  apply agree_bind (agree_emit _)
  intro _
  apply agree_bind agree_gasLeft
  intro left
  have hrest : Agree (Scene.Paired S)
      (do
        charge (left - Gas.returnEncoding)
        tell (.scheduled sequence id (id.retry sequence))
        return id.retry sequence : Action σ κ TicketId)
      (do
        charge (left - Gas.returnEncoding)
        tell (.scheduled sequence id (id.retry sequence))
        return id.retry sequence) :=
    agree_bind (agree_charge _) fun _ => agree_bind (agree_tell _) fun _ => agree_pure _
  exact agree_ite (agree_bind (agree_charge _) fun _ => hrest) hrest

end Controller

open RetryTickets.Action Controller in
/-- A call ends alike on paired scenes whose stores are alike about its ticket. -/
theorem Call.agree_act {σ κ σ' : Type} [TicketStore σ] [TicketStore σ'] [EventSink κ]
    {S : σ → σ' → Prop} {call : Call} (h : ∀ id, call.ticket? = some id → AlikeAbout S id)
    (context : CallContext) :
    Agree (Scene.Paired S) (call.act context : Action σ κ Output) (call.act context) := by
  cases call with
  | cancel id => exact agree_bind (agree_cancel (h id rfl) context) fun _ => agree_pure _
  | getBeneficiary id =>
    exact agree_bind (agree_bind (agree_requireLive (h id rfl) context.now) fun _ =>
      agree_ask (h id rfl).beneficiary) fun _ => agree_pure _
  | getLifetime => exact agree_pure _
  | getTimeout id =>
    exact agree_bind (agree_bind (agree_requireLive (h id rfl) context.now) fun _ =>
      agree_ask (h id rfl).timeout) fun _ => agree_pure _
  | keepalive id => exact agree_bind (agree_keepalive (h id rfl) context) fun _ => agree_pure _
  | redeem id => exact agree_bind (agree_redeem (h id rfl) context) fun _ => agree_pure _

end RetryTickets
