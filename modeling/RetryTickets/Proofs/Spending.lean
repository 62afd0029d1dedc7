-- Gas is neither made nor lost. What is left on a meter and what was burned
-- always make up its limit, so no charge runs over or under, and a receipt
-- says how much less is left. A call charges nothing but five kinds of price.
import RetryTickets.Proofs.Actions

namespace RetryTickets

/-! ## Charges on a meter -/

namespace Meter

/-- What is left and what was burned make up the limit. -/
def Balanced (limit : UInt64) (meter : Meter) : Prop :=
  meter.remaining.toNat + meter.burned.toNat = limit.toNat

/-- A charge that comes out as it does in numbers without bound: it takes what it needs, or all
that is left if that is less. -/
structure Exact (amount : UInt64) (meter : Meter) : Prop where
  met : (meter.burn amount).1 = .ok () ↔ amount.toNat ≤ meter.remaining.toNat
  remaining : (meter.burn amount).2.remaining.toNat =
    meter.remaining.toNat - min amount.toNat meter.remaining.toNat
  burned : (meter.burn amount).2.burned.toNat =
    meter.burned.toNat + min amount.toNat meter.remaining.toNat

variable {limit amount : UInt64} {meter : Meter}

theorem burn_of_le (h : amount ≤ meter.remaining) :
    meter.burn amount = (.ok (), meter.spend amount) :=
  if_neg (UInt64.not_lt.2 h)

theorem burn_of_lt (h : meter.remaining < amount) : meter.burn amount =
    (.error ⟨amount, meter.remaining⟩, ⟨0, meter.burned + meter.remaining⟩) :=
  if_pos h

theorem balanced_ofLimit (limit : UInt64) : (ofLimit limit).Balanced limit := by
  simp [Balanced, ofLimit]

/-- On a balanced meter no charge runs over or under. -/
theorem Balanced.exact (h : meter.Balanced limit) (amount : UInt64) : meter.Exact amount := by
  have hlimit := limit.toNat_lt
  unfold Balanced at h
  by_cases hle : amount ≤ meter.remaining
  · have hnat := UInt64.le_iff_toNat_le.1 hle
    have hspent : (meter.burned + amount).toNat = meter.burned.toNat + amount.toNat := by
      rw [UInt64.toNat_add, Nat.mod_eq_of_lt (by omega)]
    constructor
    · simp [burn_of_le hle, hnat]
    · simp [burn_of_le hle, spend, UInt64.toNat_sub_of_le _ _ hle, hnat]
    · simp [burn_of_le hle, spend, hspent, hnat]
  · have hlt := UInt64.not_le.1 hle
    have hnat := UInt64.lt_iff_toNat_lt.1 hlt
    have hspent : (meter.burned + meter.remaining).toNat =
        meter.burned.toNat + meter.remaining.toNat := by
      rw [UInt64.toNat_add, Nat.mod_eq_of_lt (by omega)]
    constructor
    · simp [burn_of_lt hlt, hnat]
    · simp [burn_of_lt hlt, Nat.le_of_lt hnat]
    · simp [burn_of_lt hlt, hspent, Nat.le_of_lt hnat]

theorem Balanced.burn (h : meter.Balanced limit) (amount : UInt64) :
    (meter.burn amount).2.Balanced limit := by
  have hexact := h.exact amount
  unfold Balanced at *
  rw [hexact.remaining, hexact.burned]
  omega

theorem Balanced.burn_le (h : meter.Balanced limit) (amount : UInt64) :
    (meter.burn amount).2.remaining ≤ meter.remaining := by
  rw [UInt64.le_iff_toNat_le, (h.exact amount).remaining]
  omega

/-- Of a meter with the same limit, what was burned since then is what is missing since then. -/
theorem Balanced.burned_since {later : Meter} (h : meter.Balanced limit)
    (hlater : later.Balanced limit) (hle : later.remaining ≤ meter.remaining) :
    (later.burned - meter.burned).toNat + later.remaining.toNat = meter.remaining.toNat := by
  unfold Balanced at h hlater
  have hleft := UInt64.le_iff_toNat_le.1 hle
  have hburned : meter.burned ≤ later.burned := by
    rw [UInt64.le_iff_toNat_le]
    omega
  rw [UInt64.toNat_sub_of_le _ _ hburned]
  omega

end Meter

/-! ## The charges of an action -/

namespace Action

variable {σ κ α β : Type}

/-- The scene that an action leaves, whether it goes through or not. -/
def leaves (x : Action σ κ α) (s : Scene σ κ) : Scene σ κ :=
  match x s with
  | .ok _ t => t
  | .error _ t => t

/-- The steps that charge nothing. -/
inductive Free : {α : Type} → Action σ κ α → Prop where
  | pure {α : Type} (a : α) : Free (pure a)
  | throw {α : Type} (error : Error) : Free (throw error : Action σ κ α)
  | ask {α : Type} (question : σ → Except Error α) : Free (ask question)
  | change {α : Type} (operation : σ → Except Error α × σ) : Free (change operation)
  | price (amount : Except Shortfall UInt64) : Free (price amount)
  | gasLeft : Free gasLeft
  | tell (notice : Notice) : Free (tell notice)
  | offer [EventSink κ] (event : Event) : Free (offer event)

/-- All charges of an action on a scene have a property, each on the meter that it finds. -/
inductive Charges (P : Meter → UInt64 → Prop) :
    {α : Type} → Action σ κ α → Scene σ κ → Prop where
  | free {α : Type} {x : Action σ κ α} {s} (h : Free x) : Charges P x s
  | charge {s} (amount : UInt64) (h : P s.meter amount) : Charges P (charge amount) s
  | bind {α β : Type} {x : Action σ κ α} {f : α → Action σ κ β} {s} (hx : Charges P x s)
      (hf : ∀ a t, x s = .ok a t → Charges P (f a) t) : Charges P (x >>= f) s

section Leaves

variable {s t : Scene σ κ} {x : Action σ κ α} {f : α → Action σ κ β}

theorem leaves_of_ok {a : α} (h : x s = .ok a t) : x.leaves s = t := by
  unfold leaves
  rw [h]

theorem leaves_of_error {error : Error} (h : x s = .error error t) : x.leaves s = t := by
  unfold leaves
  rw [h]

theorem meter_leaves_charge (amount : UInt64) (s : Scene σ κ) :
    ((charge amount : Action σ κ Unit).leaves s).meter = (s.meter.burn amount).2 := by
  unfold leaves charge
  rcases s.meter.burn amount with ⟨_ | _, meter⟩ <;> rfl

theorem Free.meter_leaves (h : Free x) (s : Scene σ κ) : (x.leaves s).meter = s.meter := by
  unfold leaves
  cases h with
  | pure a => rfl
  | throw error => rfl
  | ask question =>
    unfold Action.ask
    cases question s.store <;> rfl
  | change operation =>
    unfold Action.change
    rcases operation s.store with ⟨_ | _, store⟩ <;> rfl
  | price amount => cases amount <;> rfl
  | gasLeft => rfl
  | tell notice => rfl
  | offer event =>
    unfold Action.offer
    rcases EventSink.emit event s.sink with ⟨_ | _, sink⟩ <;> rfl

end Leaves

namespace Charges

variable {P Q : Meter → UInt64 → Prop} {s : Scene σ κ} {x : Action σ κ α}

theorem mono (h : x.Charges P s) (himp : ∀ meter amount, P meter amount → Q meter amount) :
    x.Charges Q s := by
  induction h with
  | free h => exact .free h
  | charge amount h => exact .charge amount (himp _ amount h)
  | bind _ _ ihx ihf => exact .bind ihx ihf

/-- What every charge preserves holds at each charge of an action and behind the last one. -/
theorem keeps {I : Meter → Prop} (h : x.Charges P s)
    (hburn : ∀ meter amount, I meter → I (meter.burn amount).2) (hstart : I s.meter) :
    x.Charges (fun meter amount => I meter ∧ P meter amount) s ∧ I (x.leaves s).meter := by
  induction h with
  | @free α x s h => exact ⟨.free h, (h.meter_leaves s).symm ▸ hstart⟩
  | @charge s amount h =>
    exact ⟨.charge amount ⟨hstart, h⟩, meter_leaves_charge amount s ▸ hburn _ _ hstart⟩
  | @bind α β x f s _ _ ihx ihf =>
    obtain ⟨hx, hleft⟩ := ihx hstart
    cases hrun : x s with
    | ok a t =>
      rw [leaves_of_ok hrun] at hleft
      obtain ⟨hf, hend⟩ := ihf a t hrun hleft
      have hrest : ∀ b u, x s = .ok b u → (f b).Charges (fun m n => I m ∧ P m n) u := by
        intro b u hb
        rw [hrun] at hb
        cases hb
        exact hf
      refine ⟨.bind hx hrest, ?_⟩
      unfold leaves at hend ⊢
      rwa [bind_of_ok hrun]
    -- What was refused is left as it is, and the rest charges nothing.
    | error error t =>
      rw [leaves_of_error hrun] at hleft
      refine ⟨.bind hx fun b u hb => ?_, leaves_of_error (bind_of_error hrun) ▸ hleft⟩
      rw [hrun] at hb
      cases hb

end Charges

/-- After a refusal nothing is charged. -/
theorem charges_throw_bind {P : Meter → UInt64 → Prop} {s : Scene σ κ} (error : Error)
    (f : α → Action σ κ β) : (throw error >>= f).Charges P s :=
  .bind (.free (.throw error)) fun _ _ h => (throw_ok_iff.1 h).elim

theorem charges_ite {P : Meter → UInt64 → Prop} {s : Scene σ κ} {c : Prop} [Decidable c]
    {x y : Action σ κ α} (hx : c → x.Charges P s) (hy : ¬ c → y.Charges P s) :
    (if c then x else y).Charges P s := by
  split
  · exact hx ‹c›
  · exact hy ‹¬ c›

end Action

/-! ## The charges of a call -/

/-- What a call charges: the price of keeping or of reading a ticket, of an event or of an answer,
and what an attempt is given. The attempt is given what is left but for the price of the answer,
and as much as that is left. -/
inductive Meter.Due (meter : Meter) : UInt64 → Prop where
  | keepalive {size price : UInt64} (h : Gas.keepalive size = .ok price) : Due meter price
  | redeemRead {size price : UInt64} (h : Gas.redeemRead size = .ok price) : Due meter price
  | event (event : Event) : Due meter event.gasCost
  | answer : Due meter Gas.returnEncoding
  | attempt (h : Gas.returnEncoding ≤ meter.remaining) :
      Due meter (meter.remaining - Gas.returnEncoding)

namespace Controller

open RetryTickets.Action

variable {σ κ : Type}

theorem charges_emit [EventSink κ] (event : Event) (s : Scene σ κ) :
    (emit event : Action σ κ Unit).Charges Meter.Due s :=
  .bind (.charge _ (.event event)) fun _ _ _ => .free (.offer event)

variable [TicketStore σ]

theorem charges_requireLive {P : Meter → UInt64 → Prop} (id : TicketId) (now : UInt64)
    (s : Scene σ κ) : (requireLive id now : Action σ κ Unit).Charges P s := by
  refine .bind (.free (.ask _)) fun found t _ => ?_
  cases found with
  | none => exact .free (.throw _)
  | some ticket => exact .free (.pure _)

variable [EventSink κ]

theorem charges_cancel (context : CallContext) (id : TicketId) (s : Scene σ κ) :
    (cancel context id : Action σ κ Unit).Charges Meter.Due s := by
  refine .bind (charges_requireLive id _ s) fun _ _ _ => ?_
  refine .bind (.free (.ask _)) fun beneficiary _ _ => ?_
  apply charges_ite
  · exact fun _ => charges_throw_bind _ _
  · intro _
    refine .bind (.free (.change _)) fun _ _ _ => ?_
    exact .bind (.free (.tell _)) fun _ _ _ => charges_emit _ _

theorem charges_keepalive (context : CallContext) (id : TicketId) (s : Scene σ κ) :
    (keepalive context id : Action σ κ UInt64).Charges Meter.Due s := by
  refine .bind (.free (.ask _)) fun size _ _ => ?_
  apply charges_ite
  · exact fun _ => charges_throw_bind _ _
  · intro _
    refine .bind (.free (.price _)) fun cost _ hcost => ?_
    refine .bind (.charge cost (.keepalive (price_ok_iff.1 hcost).1)) fun _ _ _ => ?_
    cases Gas.plus? context.now Ticket.lifetime with
    | none => exact .free (.throw _)
    | some latest =>
      refine .bind (.free (.change _)) fun _ _ _ => ?_
      refine .bind (charges_requireLive id _ _) fun _ _ _ => ?_
      refine .bind (.free (.ask _)) fun newTimeout _ _ => ?_
      refine .bind (.free (.tell _)) fun _ _ _ => ?_
      exact .bind (charges_emit _ _) fun _ _ _ => .free (.pure newTimeout)

/-- What an attempt is given is there: if the price of the answer cannot be paid, the charge for
it is not met, and nothing is given. -/
theorem charges_redeem (context : CallContext) (id : TicketId) (s : Scene σ κ) :
    (redeem context id : Action σ κ TicketId).Charges Meter.Due s := by
  refine .bind (.free (.ask _)) fun size _ _ => ?_
  refine .bind (.free (.price _)) fun cost _ hcost => ?_
  refine .bind (.charge cost (.redeemRead (price_ok_iff.1 hcost).1)) fun _ _ _ => ?_
  refine .bind (charges_requireLive id _ _) fun _ _ _ => ?_
  refine .bind (.free (.change _)) fun sequence _ _ => ?_
  refine .bind (.free .gasLeft) fun donated _ _ => ?_
  refine .bind (charges_emit _ _) fun _ _ _ => ?_
  refine .bind (.free .gasLeft) fun left _ hleft => ?_
  obtain ⟨rfl, rfl⟩ := gasLeft_ok_iff.1 hleft
  apply charges_ite
  -- The guard charges more than there is, so nothing behind it is reached.
  · intro hshort
    refine .bind (.charge _ .answer) fun _ _ hpaid => ?_
    exact absurd (charge_ok_iff.1 hpaid).1 (UInt64.not_le.2 hshort)
  · intro henough
    refine .bind (.charge _ (.attempt (UInt64.not_lt.1 henough))) fun _ _ _ => ?_
    exact .bind (.free (.tell _)) fun _ _ _ => .free (.pure _)

end Controller

open RetryTickets.Action Controller in
/-- A call charges what is due and nothing else. -/
theorem Call.charges_act {σ κ : Type} [TicketStore σ] [EventSink κ] (context : CallContext)
    (call : Call) (s : Scene σ κ) : (call.act context : Action σ κ Output).Charges Meter.Due s := by
  cases call with
  | cancel id => exact .bind (charges_cancel context id s) fun _ _ _ => .free (.pure _)
  | getBeneficiary id =>
    exact .bind (.bind (charges_requireLive id context.now s) fun _ _ _ => .free (.ask _))
      fun _ _ _ => .free (.pure _)
  | getLifetime => exact .free (.pure _)
  | getTimeout id =>
    exact .bind (.bind (charges_requireLive id context.now s) fun _ _ _ => .free (.ask _))
      fun _ _ _ => .free (.pure _)
  | keepalive id => exact .bind (charges_keepalive context id s) fun _ _ _ => .free (.pure _)
  | redeem id => exact .bind (charges_redeem context id s) fun _ _ _ => .free (.pure _)

/-- The scene on which a call is tried. -/
def Scene.trial {σ κ : Type} (scene : Scene σ κ) : Scene σ EventLog :=
  ⟨scene.store, .empty, scene.meter, scene.notices⟩

namespace Dispatch

variable {σ κ : Type} [TicketStore σ] [EventSink κ]

/-- A call leaves the meter of its trial, and the receipt says what was burned on it. -/
theorem execute_meter (request : Call) (context : CallContext) (scene : Scene σ κ) :
    (execute request context scene).2.meter = ((request.act context).leaves scene.trial).meter ∧
      (execute request context scene).1.gasUsed =
        (execute request context scene).2.meter.burned - scene.meter.burned := by
  unfold execute
  cases h : request.act context scene.trial with
  | ok output done =>
    rw [Action.leaves_of_ok h]
    unfold Scene.trial at h
    simp only [h, and_self]
  | error error stopped =>
    rw [Action.leaves_of_error h]
    unfold Scene.trial at h
    simp only [h, and_self]

end Dispatch

/-! ## A shared meter -/

/-- What can be paid from a meter: a charge by itself, or a call on any scene. -/
inductive Expense : Type 1 where
  | charge (amount : UInt64)
  | call {σ κ : Type} [TicketStore σ] [EventSink κ] (request : Call) (context : CallContext)
      (scene : Scene σ κ)

namespace Expense

/-- Pays from a meter, which gives a receipt for a call. -/
def pay (meter : Meter) : Expense → Option Receipt × Meter
  | charge amount => (none, (meter.burn amount).2)
  | call request context scene =>
    let (receipt, after) := Dispatch.execute request context { scene with meter := meter }
    (some receipt, after.meter)

/-- All charges of an expense come out as they do in numbers without bound, and those of a call
are due. -/
def Sound (limit : UInt64) (meter : Meter) : Expense → Prop
  | charge amount => meter.Balanced limit ∧ meter.Exact amount
  | call request context scene => (request.act context).Charges
      (fun meter amount => meter.Balanced limit ∧ meter.Exact amount ∧ meter.Due amount)
      { scene with meter := meter }.trial

variable {limit : UInt64} {meter : Meter}

theorem paid (h : meter.Balanced limit) (expense : Expense) :
    expense.Sound limit meter ∧ (expense.pay meter).2.Balanced limit ∧
      (expense.pay meter).2.remaining ≤ meter.remaining := by
  cases expense with
  | charge amount => exact ⟨⟨h, h.exact amount⟩, h.burn amount, h.burn_le amount⟩
  | call request context scene =>
    -- Along the trial the meter stays balanced and never gets more than it had at the start.
    obtain ⟨hcharges, hleft⟩ := (Call.charges_act context request
      { scene with meter := meter }.trial).keeps
      (I := fun between => between.Balanced limit ∧ between.remaining ≤ meter.remaining)
      (fun _ amount h => ⟨h.1.burn amount, UInt64.le_trans (h.1.burn_le amount) h.2⟩)
      ⟨h, UInt64.le_refl _⟩
    rw [← (Dispatch.execute_meter request context { scene with meter := meter }).1] at hleft
    exact ⟨hcharges.mono fun _ amount h => ⟨h.1.1, h.1.1.exact amount, h.2⟩, hleft⟩

/-- A receipt says how much less is left. -/
theorem gasUsed_paid (h : meter.Balanced limit) {expense : Expense} {receipt : Receipt}
    (hreceipt : (expense.pay meter).1 = some receipt) :
    receipt.gasUsed.toNat + (expense.pay meter).2.remaining.toNat = meter.remaining.toNat := by
  obtain ⟨_, hafter, hle⟩ := expense.paid h
  cases expense with
  | charge amount => cases hreceipt
  | call request context scene =>
    have hgas := (Dispatch.execute_meter request context { scene with meter := meter }).2
    have hpaid : receipt =
        (Dispatch.execute request context { scene with meter := meter }).1 :=
      (Option.some.inj hreceipt).symm
    rw [hpaid, hgas]
    exact h.burned_since hafter hle

end Expense

/-- A meter after some expenses. -/
def Meter.after (expenses : List Expense) (meter : Meter) : Meter :=
  expenses.foldl (fun meter expense => (expense.pay meter).2) meter

theorem Meter.Balanced.after {limit : UInt64} {meter : Meter} (h : meter.Balanced limit)
    (expenses : List Expense) : (meter.after expenses).Balanced limit := by
  induction expenses generalizing meter with
  | nil => exact h
  | cons expense rest ih => exact ih (expense.paid h).2.1

/-! ## The law -/

/-- Whatever was paid from a meter and whatever is paid next: what is left and what was burned
make up the limit at every charge and behind it, so no charge runs over or under, there is never
more left than before, and a receipt says how much less. -/
theorem no_gas_is_made_or_lost (limit : UInt64) (expenses : List Expense) (expense : Expense) :
    let before := (Meter.ofLimit limit).after expenses
    let (receipt?, after) := expense.pay before
    before.Balanced limit ∧ expense.Sound limit before ∧ after.Balanced limit ∧
      after.remaining ≤ before.remaining ∧
      ∀ receipt, receipt? = some receipt →
        receipt.gasUsed.toNat + after.remaining.toNat = before.remaining.toNat := by
  have hbefore := (Meter.balanced_ofLimit limit).after expenses
  obtain ⟨hsound, hafter, hle⟩ := expense.paid hbefore
  exact ⟨hbefore, hsound, hafter, hle, fun _ hreceipt => Expense.gasUsed_paid hbefore hreceipt⟩

end RetryTickets
