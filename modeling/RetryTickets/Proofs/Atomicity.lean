-- A call happens wholly or not at all, on any store and with any sink. Calls
-- pay no heed to what was told before them, and what a sink does with the
-- events of a call never gets back into the outcome.
import RetryTickets.Proofs.Agreement
import RetryTickets.Proofs.Calls

namespace RetryTickets

/-! ## No heed to notices -/

/-- A store is alike to itself about every ticket. -/
theorem alikeAbout_eq {σ : Type} [TicketStore σ] (id : TicketId) :
    AlikeAbout (Eq : σ → σ → Prop) id where
  openTicket := fun _ _ _ same => same ▸ rfl
  sizeBytes := fun _ _ _ same => same ▸ rfl
  beneficiary := fun _ _ same => same ▸ rfl
  timeout := fun _ _ same => same ▸ rfl
  delete := fun _ _ same => same ▸ ⟨rfl, rfl⟩
  extendExpiry := fun _ _ _ _ _ same => same ▸ ⟨rfl, rfl⟩
  incrementAttempt := fun _ _ same => same ▸ ⟨rfl, rfl⟩

/-- No call pays heed to what was told before it. -/
theorem Call.heedless_act {σ κ : Type} [TicketStore σ] [EventSink κ] (context : CallContext)
    (call : Call) :
    Action.Agree (Scene.Paired Eq) (call.act context : Action σ κ Output) (call.act context) :=
  Call.agree_act (fun id _ => alikeAbout_eq id) context

/-! ## A call through dispatch -/

namespace Dispatch

variable {σ κ : Type} [TicketStore σ] [EventSink κ]

/-- A sink after it was offered some events in their order, whichever of them it took. -/
def offered (events : List Event) (sink : κ) : κ :=
  events.foldl (fun sink event => (EventSink.emit event sink).2) sink

/-- Every event is offered once and in order, also behind one that was refused. -/
theorem deliver_offered (call : Call) (events : List Event) (sink : κ) :
    (deliver call events sink).1 = offered events sink := by
  induction events generalizing sink with
  | nil => rfl
  | cons event rest ih =>
    have hnext : offered (event :: rest) sink = offered rest (EventSink.emit event sink).2 := rfl
    rw [hnext]
    unfold deliver
    rcases EventSink.emit event sink with ⟨error | u, next⟩
    · exact ih next
    · exact ih next

variable {call : Call} {context : CallContext} {store : σ} {meter : Meter}

/-- What goes through on an empty log goes through, and the sink is offered what the log took. -/
theorem execute_of_ok {output : Output} {done : Scene σ EventLog}
    (h : call.act context ⟨store, .empty, meter, []⟩ = .ok output done) (sink : κ)
    (notices : List Notice) :
    ∃ told, execute call context ⟨store, sink, meter, notices⟩ =
      (⟨output, done.meter.burned - meter.burned, none⟩,
        ⟨done.store, offered done.sink.events sink, done.meter, told⟩) := by
  have paired : Scene.Paired (κ := EventLog) Eq ⟨store, .empty, meter, []⟩
      ⟨store, .empty, meter, notices⟩ := ⟨rfl, rfl, rfl⟩
  rcases Call.heedless_act context call _ _ paired with
    ⟨a, t, t', hs, hs', ht⟩ | ⟨error, t, t', hs, _, _⟩
  · rw [h] at hs
    cases hs
    refine ⟨t'.notices ++ (deliver call t'.sink.events sink).2, ?_⟩
    rw [ht.store, ht.sink, ht.meter, ← deliver_offered call]
    unfold execute
    simp only [hs']
  · rw [h] at hs
    cases hs

/-- What is refused on an empty log is refused, and only the gas is gone. -/
theorem execute_of_error {error : Error} {stopped : Scene σ EventLog}
    (h : call.act context ⟨store, .empty, meter, []⟩ = .error error stopped) (sink : κ)
    (notices : List Notice) :
    ∃ told, execute call context ⟨store, sink, meter, notices⟩ =
      (⟨call.zeroOutput, stopped.meter.burned - meter.burned, some error⟩,
        ⟨store, sink, stopped.meter, told⟩) := by
  have paired : Scene.Paired (κ := EventLog) Eq ⟨store, .empty, meter, []⟩
      ⟨store, .empty, meter, notices⟩ := ⟨rfl, rfl, rfl⟩
  rcases Call.heedless_act context call _ _ paired with
    ⟨a, t, t', hs, _, _⟩ | ⟨error, t, t', hs, hs', ht⟩
  · rw [h] at hs
    cases hs
  · rw [h] at hs
    cases hs
    refine ⟨t'.notices ++ [.failed call context.caller error], ?_⟩
    rw [ht.meter]
    unfold execute
    simp only [hs']

end Dispatch

/-! ## The law -/

/-- A call that is refused leaves the store and the sink as they were and answers the zero of its
kind. A call that goes through leaves the store and the answer of its method, run by itself on an
empty log, and the sink was offered what that log took. No sink has a part in the outcome. -/
theorem a_call_happens_wholly_or_not_at_all {σ κ κ' : Type} [TicketStore σ] [EventSink κ]
    [EventSink κ'] (call : Call) (context : CallContext) (store : σ) (meter : Meter) (sink : κ)
    (sink' : κ') (notices notices' : List Notice) :
    let (receipt, after) := Dispatch.execute call context ⟨store, sink, meter, notices⟩
    let (receipt', after') := Dispatch.execute call context ⟨store, sink', meter, notices'⟩
    (match receipt.error with
      | some error =>
        after.store = store ∧ after.sink = sink ∧ receipt.output = call.zeroOutput ∧
          ∃ stopped, call.act context ⟨store, EventLog.empty, meter, []⟩ = .error error stopped
      | none =>
        ∃ done, call.Answers context ⟨store, EventLog.empty, meter, []⟩ receipt.output done ∧
          after.store = done.store ∧ after.meter = done.meter ∧
          after.sink = Dispatch.offered done.sink.events sink) ∧
    receipt' = receipt ∧ after'.store = after.store ∧ after'.meter = after.meter := by
  cases h : call.act context ⟨store, EventLog.empty, meter, []⟩ with
  | ok output done =>
    obtain ⟨told, hrun⟩ := Dispatch.execute_of_ok h sink notices
    obtain ⟨told', hrun'⟩ := Dispatch.execute_of_ok h sink' notices'
    rw [hrun, hrun']
    exact ⟨⟨done, Call.answers_of_act h, rfl, rfl, rfl⟩, rfl, rfl, rfl⟩
  | error error stopped =>
    obtain ⟨told, hrun⟩ := Dispatch.execute_of_error h sink notices
    obtain ⟨told', hrun'⟩ := Dispatch.execute_of_error h sink' notices'
    rw [hrun, hrun']
    exact ⟨⟨rfl, rfl, rfl, stopped, rfl⟩, rfl, rfl, rfl⟩

end RetryTickets
