-- All the ways in which a request is refused, each with its wording.
import RetryTickets.Files.Fault
import RetryTickets.Gas
import RetryTickets.Identifier.Reading

namespace RetryTickets

/-- The operations of a ticket store, by name. -/
inductive StoreOperation where
  | openTicket
  | delete
  | sizeBytes
  | extendExpiry
  | incrementAttempt
  | beneficiary
  | timeout
  deriving DecidableEq

/-- The name of a store operation. -/
def StoreOperation.name : StoreOperation → String
  | openTicket => "open"
  | delete => "delete"
  | sizeBytes => "size_bytes"
  | extendExpiry => "extend_expiry"
  | incrementAttempt => "increment_attempt"
  | beneficiary => "beneficiary"
  | timeout => "timeout"

/-- What a ticket store refuses. -/
inductive StoreFault where
  /-- A ticket of this id is in the store. -/
  | alreadyExists (id : TicketId)
  /-- The end of the allowed window lies after the last point in time. -/
  | limitOverflow
  /-- The new timeout lies after the end of the allowed window. -/
  | tooFar
  /-- A lifetime from now ends after the last point in time. -/
  | timeoutOverflow
  /-- The attempt counter of this ticket is at its end. -/
  | attemptOverflow (id : TicketId)
  /-- The operation cannot be served. -/
  | unavailable (operation : StoreOperation)
  deriving DecidableEq

/-- The wording of a store's refusal. -/
def StoreFault.message : StoreFault → String
  | alreadyExists id => "Ticket " ++ id.text ++ " already exists"
  | limitOverflow => "timeout limit overflows"
  | tooFar => "timeout too far into the future"
  | timeoutOverflow => "timeout overflows"
  | attemptOverflow id => "Attempt counter overflow for " ++ id.text
  | unavailable operation => operation.name ++ " unavailable"

/-- Why written data cannot be read back. -/
inductive DecodeFault where
  /-- The data ends too early. -/
  | endOfData
  /-- The number of an event's kind is not one of the five. -/
  | unknownKind (number : Nat)
  deriving DecidableEq

/-- The wording of unreadable data. -/
def DecodeFault.message : DecodeFault → String
  | endOfData => "io error: unexpected end of file"
  | unknownKind number =>
    "invalid value: integer `" ++ toString number ++ "`, expected variant index 0 <= i < 5"

/-- What storage was doing when a file operation failed. -/
inductive FileStep where
  | createDirectory
  | appendEvent
  | readEvents
  | readSnapshot
  | createTemporary
  | renameTemporary
  | openParent
  deriving DecidableEq

/-- The name of a step. -/
def FileStep.name : FileStep → String
  | createDirectory => "create data directory"
  | appendEvent => "open event log for append"
  | readEvents => "read event log"
  | readSnapshot => "read store file"
  | createTemporary => "create temp store file"
  | renameTemporary => "rename temp store file"
  | openParent => "open parent directory"

/-- What is wrong with the recorded state. -/
inductive StateFault where
  /-- The event log takes no events. -/
  | logUnavailable
  /-- A file operation failed. -/
  | file (step : FileStep) (fault : FileFault)
  /-- The event log ends within an event. -/
  | tornEvent
  /-- An event says that it is longer than any memory. -/
  | endlessEvent (length : Nat)
  /-- An event cannot be read. -/
  | badEvent (fault : DecodeFault)
  /-- The snapshot of the store cannot be read. -/
  | badSnapshot (fault : DecodeFault)
  deriving DecidableEq

/-- The wording of a state fault. -/
def StateFault.message : StateFault → String
  | logUnavailable => "log unavailable"
  | file step fault => "Failed to " ++ step.name ++ ": " ++ fault.message
  | tornEvent => "Failed to read event data: failed to fill whole buffer"
  | endlessEvent length => "Failed to read event data: no room for " ++ toString length ++ " bytes"
  | badEvent fault => "Failed to deserialize event: " ++ fault.message
  | badSnapshot fault => "Failed to deserialize store: " ++ fault.message

/-- Why a request is refused. -/
inductive Error where
  /-- There is no live ticket of that id. -/
  | notFound
  /-- Someone else than the beneficiary asked for it. -/
  | unauthorized (caller beneficiary : Address)
  /-- A charge was not met. -/
  | outOfGas (shortfall : Shortfall)
  /-- The ticket store refused. -/
  | store (fault : StoreFault)
  /-- A given value is wrong. -/
  | input (fault : InputFault)
  /-- The recorded state is wrong. -/
  | state (fault : StateFault)
  deriving DecidableEq

namespace Error

/-- The name of the kind of refusal. -/
def kind : Error → String
  | notFound => "NotFound"
  | unauthorized _ _ => "Unauthorized"
  | outOfGas _ => "InsufficientGas"
  | store _ => "StoreError"
  | input _ => "InvalidInput"
  | state _ => "StateError"

/-- The wording of a refusal. -/
def message : Error → String
  | notFound => "ticketId not found"
  | unauthorized caller beneficiary =>
    "only the beneficiary may cancel a retryable: caller " ++ caller.text ++
      ", beneficiary " ++ beneficiary.text
  | outOfGas shortfall =>
    "Out of gas: need " ++ toString shortfall.needed ++ ", have " ++ toString shortfall.available
  | store fault => "Ticket store error: " ++ fault.message
  | input fault => "Invalid input: " ++ fault.message
  | state fault => "State error: " ++ fault.message

end Error

end RetryTickets
