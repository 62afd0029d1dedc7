-- Where events go. A sink may refuse an event; it gives itself as it is
-- afterwards in either case.
import RetryTickets.Error
import RetryTickets.Event

namespace RetryTickets

/-- Something that takes events. -/
class EventSink (κ : Type) where
  emit : Event → κ → Except Error Unit × κ

/-- All events taken, oldest first. -/
structure EventLog where
  events : List Event
  deriving DecidableEq

namespace EventLog

/-- No events yet. -/
def empty : EventLog := ⟨[]⟩

instance : Inhabited EventLog := ⟨empty⟩

/-- The log with one more event. -/
def push (event : Event) (log : EventLog) : EventLog := ⟨log.events ++ [event]⟩

/-- How many events there are. -/
def size (log : EventLog) : Nat := log.events.length

/-- Whether there are none. -/
def isEmpty (log : EventLog) : Bool := log.events.isEmpty

instance : EventSink EventLog where
  emit event log := (.ok (), log.push event)

end EventLog

/-- A sink that forgets what it takes. -/
structure Forgetting where

instance : EventSink Forgetting where
  emit _ sink := (.ok (), sink)

end RetryTickets
