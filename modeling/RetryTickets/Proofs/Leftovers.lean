-- What a request leaves behind when it is refused midway and nobody undoes it.
-- Everything but the want of gas is noticed before anything is changed. Where gas
-- runs short later, the request has done its own part and no other, and it has
-- told of it only if it was an attempt that could not pay for its answer.
import RetryTickets.Proofs.Cancels
import RetryTickets.Proofs.Keepalives
import RetryTickets.Proofs.Redeems

namespace RetryTickets

/-! ## The part of a request -/

namespace Call

/-- What a request that goes through makes of its ticket, and the event that tells of it. The
ticket of a cancel is gone, that of a keepalive ends a lifetime from now, and that of a redeem has
one attempt more, which is given what is left behind its reading. -/
inductive Turns (context : CallContext) (meter : Meter) (ticket : Ticket) :
    Call → Option Ticket → Event → Prop
  | cancel (id : TicketId) : Turns context meter ticket (.cancel id) none (.canceled id)
  | keepalive (id : TicketId) (timeout : UInt64)
      (later : timeout.toNat = context.now.toNat + 604800) :
      Turns context meter ticket (.keepalive id) (some { ticket with timeout := timeout })
        (.extended id timeout)
  | redeem (id : TicketId) (attempts price : UInt64)
      (more : attempts.toNat = ticket.attempts.toNat + 1)
      (read : Gas.redeemRead ticket.sizeBytes = .ok price) :
      Turns context meter ticket (.redeem id) (some { ticket with attempts := attempts })
        (.scheduled id (id.retry attempts) attempts (meter.remaining - price) context.caller)

/-- The request has done its part: the ticket under its id is turned, and every other one is as
it was. -/
def Turned (request : Call) (context : CallContext) (meter : Meter) (id : TicketId) (event : Event)
    (before after : Registry) : Prop :=
  ∃ ticket ticket?, before.get? id = some ticket ∧ request.Turns context meter ticket ticket? event ∧
    ∀ key, after.get? key = if key = id then ticket? else before.get? key

/-- What may come of a request that nobody undoes. -/
inductive Confined {α : Type} (request : Call) (context : CallContext) (id : TicketId)
    (s : Scene Registry EventLog) : EStateM.Result Error (Scene Registry EventLog) α → Prop
  /-- It went through: its part is done and told. -/
  | done (a : α) (t : Scene Registry EventLog) (event : Event)
      (turned : request.Turned context s.meter id event s.store t.store) (told : t.sink = s.sink.push event) :
      Confined request context id s (.ok a t)
  /-- It was refused, and not for want of gas: nothing is done. -/
  | refused (error : Error) (t : Scene Registry EventLog)
      (kind : error.kind ∈ ["NotFound", "Unauthorized", "StoreError"])
      (store : t.store = s.store) (sink : t.sink = s.sink) :
      Confined request context id s (.error error t)
  /-- Gas was short: its part is done or not, and nothing is told. -/
  | short (shortfall : Shortfall) (t : Scene Registry EventLog)
      (other : request = .redeem id → shortfall.needed ≠ 96)
      (store : t.store = s.store ∨ ∃ event, request.Turned context s.meter id event s.store t.store)
      (sink : t.sink = s.sink) :
      Confined request context id s (.error (.outOfGas shortfall) t)
  /-- An attempt could not pay for its answer: its part is done and told. -/
  | unanswered (available : UInt64) (t : Scene Registry EventLog) (event : Event)
      (attempt : request = .redeem id)
      (turned : request.Turned context s.meter id event s.store t.store) (told : t.sink = s.sink.push event) :
      Confined request context id s (.error (.outOfGas ⟨96, available⟩) t)

end Call

/-! ## Prices of reading -/

namespace Gas

variable {size price : UInt64} {shortfall : Shortfall}

/-- No reading costs what an answer costs. -/
theorem redeemRead_ne_answer (h : redeemRead size = .ok price) : price ≠ 96 := by
  rw [redeemRead_eq] at h
  split at h
  · rename_i hfits
    cases h
    intro hanswer
    have hexact := congrArg UInt64.toNat hanswer
    rw [UInt64.toNat_ofNat', Nat.mod_eq_of_lt hfits] at hexact
    have hsame : (96 : UInt64).toNat = 96 := by decide
    omega
  · cases h

theorem redeemRead_error (h : redeemRead size = .error shortfall) : shortfall = unpayable := by
  rw [redeemRead_eq] at h
  split at h
  · cases h
  · cases h
    rfl

end Gas

namespace Controller

open RetryTickets.Action

variable {s : Scene Registry EventLog} {context : CallContext} {id : TicketId} {ticket : Ticket}
  {registry : Registry} {meter : Meter}

/-! ## A cancel -/

theorem cancel_turned (hget : registry.get? id = some ticket) :
    (Call.cancel id).Turned context meter id (.canceled id) registry (registry.erase id) :=
  ⟨ticket, none, hget, .cancel id, fun key => Registry.get?_erase registry id key⟩

theorem cancel_confined (context : CallContext) (id : TicketId) (s : Scene Registry EventLog) :
    (Call.cancel id).Confined context id s (cancel context id s) := by
  cases hlive : s.store.live? id context.now with
  | none =>
    have hdead : (Call.cancel id).act context s = .error .notFound s := Call.act_of_dead rfl hlive
    rw [error_of_map hdead]
    exact .refused _ _ (by decide) rfl rfl
  | some ticket =>
    have hget := (Registry.live?_eq_some_iff.1 hlive).1
    by_cases hcaller : context.caller = ticket.beneficiary
    · have hcost : (Event.canceled id).gasCost = 1125 := EventKind.gasCost_canceled
      rw [cancel_of_entitled hlive hcaller]
      by_cases henough : 1125 ≤ s.meter.remaining
      · have hleft : 1125 ≤ (givenUp context id s).meter.remaining := henough
        rw [emit_of_le hcost hleft]
        exact .done _ _ _ (cancel_turned hget) rfl
      · have hshort : (givenUp context id s).meter.remaining < 1125 := UInt64.not_le.1 henough
        rw [emit_of_lt hcost hshort]
        exact .short _ _ nofun (Or.inr ⟨_, cancel_turned hget⟩) rfl
    · rw [cancel_of_stranger hlive hcaller]
      exact .refused _ _ (by simp [Error.kind]) rfl rfl

/-! ## A keepalive -/

theorem keepalive_turned {timeout : UInt64} (hget : registry.get? id = some ticket)
    (hwindow : Gas.plus? context.now Ticket.lifetime = some timeout) :
    (Call.keepalive id).Turned context meter id (.extended id timeout) registry
      (registry.put id { ticket with timeout := timeout }) :=
  ⟨ticket, _, hget, .keepalive id timeout (Ticket.toNat_of_window hwindow),
    fun key => Registry.get?_put registry id key _⟩

/-- A keepalive that has paid for its ticket. What is left to go wrong is the end of time and the
price of the event. -/
theorem extend_confined (hlive : s.store.live? id context.now = some ticket) :
    (Call.keepalive id).Confined context id s
      (extend context id (Gas.plus? context.now Ticket.lifetime) { s with meter := meter }) := by
  have hget := (Registry.live?_eq_some_iff.1 hlive).1
  cases hwindow : Gas.plus? context.now Ticket.lifetime with
  | none => exact .refused _ _ (by simp [Error.kind]) rfl rfl
  | some timeout =>
    by_cases henough : 1381 ≤ meter.remaining
    · rw [extend_of_logged (s := { s with meter := meter }) hlive hwindow henough]
      exact .done _ _ _ (keepalive_turned hget hwindow) rfl
    · have hshort := UInt64.not_le.1 henough
      rw [extend_of_unlogged (s := { s with meter := meter }) hlive hwindow hshort]
      exact .short _ _ nofun (Or.inr ⟨_, keepalive_turned hget hwindow⟩) rfl

theorem keepalive_confined (context : CallContext) (id : TicketId) (s : Scene Registry EventLog) :
    (Call.keepalive id).Confined context id s (keepalive context id s) := by
  cases hlive : s.store.live? id context.now with
  | none =>
    have hdead : (Call.keepalive id).act context s = .error .notFound s := Call.act_of_dead rfl hlive
    rw [error_of_map hdead]
    exact .refused _ _ (by decide) rfl rfl
  | some ticket =>
    have hsize := Registry.sizeBytes_of_live hlive
    by_cases hzero : ticket.sizeBytes = 0
    · rw [hzero] at hsize
      rw [keepalive_eq, bind_of_ok (ask_ok_iff.2 ⟨hsize, rfl⟩), if_pos rfl]
      exact .refused _ _ (by decide) rfl rfl
    · cases hprice : Gas.keepalive ticket.sizeBytes with
      | error shortfall =>
        rw [keepalive_of_sized hsize hzero, hprice]
        exact .short _ _ nofun (Or.inl rfl) rfl
      | ok cost =>
        by_cases hpaid : cost ≤ s.meter.remaining
        · rw [keepalive_of_paid hsize hzero hprice rfl hpaid]
          exact extend_confined hlive
        · rw [keepalive_of_unpaid hsize hzero hprice (UInt64.not_le.1 hpaid)]
          exact .short _ _ nofun (Or.inl rfl) rfl

/-! ## A redeem -/

/-- An attempt that is counted. What is left to go wrong are the prices of its event and of its
answer, and the first of them comes before it is told. -/
theorem donate_confined {cost : UInt64} (hget : s.store.get? id = some ticket)
    (hprice : Gas.redeemRead ticket.sizeBytes = .ok cost)
    (hroom : ticket.attempts ≠ 18446744073709551615) :
    (Call.redeem id).Confined context id s
      (donate context id (ticket.attempts + 1) (counted id ticket cost s)) := by
  have hmore : (ticket.attempts + 1).toNat = ticket.attempts.toNat + 1 := by
    have hlimit := ticket.attempts.toNat_lt
    have hbelow : ticket.attempts.toNat ≠ 2 ^ 64 - 1 := fun hlast => hroom (UInt64.toNat_inj.1 hlast)
    have hone : (1 : UInt64).toNat = 1 := by decide
    rw [UInt64.toNat_add, hone, Nat.mod_eq_of_lt (by omega)]
  have hturned : (Call.redeem id).Turned context s.meter id
      (donation context id (ticket.attempts + 1) (counted id ticket cost s)) s.store
      (counted id ticket cost s).store :=
    ⟨ticket, _, hget, .redeem id (ticket.attempts + 1) cost hmore hprice,
      fun key => Registry.get?_put s.store id key _⟩
  by_cases hevent : 2387 ≤ (counted id ticket cost s).meter.remaining
  · by_cases hanswer : 96 ≤ (counted id ticket cost s).meter.remaining - 2387
    · rw [donate_of_answered hevent hanswer]
      exact .done _ _ _ hturned rfl
    · rw [donate_of_unanswered hevent (UInt64.not_le.1 hanswer)]
      exact .unanswered _ _ _ rfl hturned rfl
  · have hother : (2387 : UInt64) ≠ 96 := by decide
    rw [donate_of_unlogged (UInt64.not_le.1 hevent)]
    exact .short _ _ (fun _ => hother) (Or.inr ⟨_, hturned⟩) rfl

theorem redeem_confined (context : CallContext) (id : TicketId) (s : Scene Registry EventLog) :
    (Call.redeem id).Confined context id s (redeem context id s) := by
  cases hlive : s.store.live? id context.now with
  | none =>
    have hdead : (Call.redeem id).act context s = .error .notFound s := Call.act_of_dead rfl hlive
    rw [error_of_map hdead]
    exact .refused _ _ (by decide) rfl rfl
  | some ticket =>
    have hget := (Registry.live?_eq_some_iff.1 hlive).1
    have hsize := Registry.sizeBytes_of_live hlive
    cases hprice : Gas.redeemRead ticket.sizeBytes with
    | error shortfall =>
      have hother : shortfall.needed ≠ 96 := by
        rw [Gas.redeemRead_error hprice]
        decide
      rw [redeem_eq, bind_of_ok (ask_ok_iff.2 ⟨hsize, rfl⟩), hprice]
      exact .short _ _ (fun _ => hother) (Or.inl rfl) rfl
    | ok cost =>
      by_cases hpaid : cost ≤ s.meter.remaining
      · by_cases hlast : ticket.attempts = 18446744073709551615
        · rw [redeem_of_uncounted hlive hprice hpaid hlast]
          exact .refused _ _ (by simp [Error.kind]) rfl rfl
        · rw [redeem_of_counted hlive hprice hpaid hlast]
          exact donate_confined hget hprice hlast
      · rw [redeem_of_unread hsize hprice (UInt64.not_le.1 hpaid)]
        exact .short _ _ (fun _ => Gas.redeemRead_ne_answer hprice) (Or.inl rfl) rfl

end Controller

/-! ## The law -/

/-- A request that nobody undoes has done its part, or none of it. It is refused for want of a
ticket, of a right or of room before it has done anything. For want of gas it may have done its
part, which is not told then, but for an attempt that cannot pay for its answer. -/
theorem what_is_refused_midway_is_confined (context : CallContext) (id : TicketId)
    (s : Scene Registry EventLog) :
    (Call.cancel id).Confined context id s (Controller.cancel context id s) ∧
    (Call.keepalive id).Confined context id s (Controller.keepalive context id s) ∧
    (Call.redeem id).Confined context id s (Controller.redeem context id s) :=
  ⟨Controller.cancel_confined context id s, Controller.keepalive_confined context id s,
    Controller.redeem_confined context id s⟩

/-- One unit short of the price of its event, a cancel has taken the ticket. -/
example : ∃ t, Controller.cancel ⟨.zero, 0⟩ .zero
      (Operation.trial (Desk.plain EventLog.empty).registry (.ofLimit 1124)) =
        .error (.outOfGas ⟨1125, 1124⟩) t ∧ t.store.get? .zero = none ∧ t.sink = .empty :=
  ⟨_, rfl, rfl, rfl⟩

end RetryTickets
