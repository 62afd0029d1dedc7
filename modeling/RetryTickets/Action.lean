-- Requests as actions on a scene: a store, a sink, a gas meter and the notices
-- told so far. What an action did before it was refused stays done.
import RetryTickets.Event.Sink
import RetryTickets.Gas.Meter
import RetryTickets.Notice
import RetryTickets.Ticket.Store

namespace RetryTickets

/-- All that a request can touch. -/
structure Scene (σ κ : Type) where
  store : σ
  sink : κ
  meter : Meter
  /-- Oldest first. -/
  notices : List Notice

/-- A request that answers or is refused, and leaves a scene behind in either case. -/
abbrev Action (σ κ : Type) := EStateM Error (Scene σ κ)

namespace Action

variable {σ κ α : Type}

/-- Asks the store. -/
def ask (question : σ → Except Error α) : Action σ κ α := fun scene =>
  match question scene.store with
  | .ok answer => .ok answer scene
  | .error error => .error error scene

/-- Lets the store do something. -/
def change (operation : σ → Except Error α × σ) : Action σ κ α := fun scene =>
  match operation scene.store with
  | (.ok answer, store) => .ok answer { scene with store := store }
  | (.error error, store) => .error error { scene with store := store }

/-- A price, which may be more than can be paid. -/
def price (amount : Except Shortfall UInt64) : Action σ κ UInt64 := fun scene =>
  match amount with
  | .ok gas => .ok gas scene
  | .error shortfall => .error (.outOfGas shortfall) scene

/-- Charges gas. -/
def charge (amount : UInt64) : Action σ κ Unit := fun scene =>
  match scene.meter.burn amount with
  | (.ok (), meter) => .ok () { scene with meter := meter }
  | (.error shortfall, meter) => .error (.outOfGas shortfall) { scene with meter := meter }

/-- The gas that is left. -/
def gasLeft : Action σ κ UInt64 := fun scene => .ok scene.meter.remaining scene

/-- Tells a notice. -/
def tell (notice : Notice) : Action σ κ Unit := fun scene =>
  .ok () { scene with notices := scene.notices ++ [notice] }

/-- Hands an event to the sink, free of charge. -/
def offer [EventSink κ] (event : Event) : Action σ κ Unit := fun scene =>
  match EventSink.emit event scene.sink with
  | (.ok (), sink) => .ok () { scene with sink := sink }
  | (.error error, sink) => .error error { scene with sink := sink }

/-- Pays for an event and hands it to the sink. -/
def emit [EventSink κ] (event : Event) : Action σ κ Unit := do
  charge event.gasCost
  offer event

end Action

end RetryTickets
