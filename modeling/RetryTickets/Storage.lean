-- The ledger on files: a log to which events are appended and a snapshot of the
-- tickets, which is replaced as a whole.
import RetryTickets.Event.Record
import RetryTickets.Files.Operations
import RetryTickets.Ticket.Snapshot

namespace RetryTickets

/-- Where the log and the snapshot are. -/
structure Storage where
  events : Path
  snapshot : Path
  deriving DecidableEq

namespace Storage

/-- Where a new snapshot is written before it takes the place of the old one. -/
def temporary (storage : Storage) : Path := storage.snapshot.withExtension "bin.tmp"

variable {m : Type → Type} [Monad m] [FileOperations m]

/-- A file operation whose fault is told with the step it belongs to. -/
def attempt {α : Type} (step : FileStep) (operation : m (Except FileFault α)) :
    ExceptT Error m α :=
  ExceptT.mk do
    match ← operation with
    | .ok a => return .ok a
    | .error fault => return .error (.state (.file step fault))

/-- Whether a path leads to something. -/
def isThere (path : Path) : ExceptT Error m Bool := ExceptT.lift (FileOperations.isThere path)

/-- Makes the directories around a path. -/
def makeRoom (path : Path) : ExceptT Error m Unit :=
  match path.parent? with
  | some parent => attempt .createDirectory (FileOperations.makeDirectories parent)
  | none => return ()

/-- Makes the directories around the log and the snapshot. -/
def prepare (storage : Storage) : ExceptT Error m Unit := do
  makeRoom storage.events
  makeRoom storage.snapshot

/-- Appends an event to the log. -/
def appendEvent (storage : Storage) (event : Event) : ExceptT Error m Unit := do
  prepare storage
  attempt .appendEvent (FileOperations.append storage.events event.record)

/-- All events of the log; a log that is not there has none. -/
def loadEvents (storage : Storage) : ExceptT Error m (List Event) := do
  if ← isThere storage.events then
    let content ← attempt .readEvents (FileOperations.read storage.events)
    match Event.ofRecords content with
    | .ok events => return events
    | .error fault => throw (.state fault)
  else
    return []

/-- The tickets of the snapshot, if there is one. -/
def loadSnapshot (storage : Storage) : ExceptT Error m (Option Registry) := do
  if ← isThere storage.snapshot then
    let content ← attempt .readSnapshot (FileOperations.read storage.snapshot)
    match Registry.ofBytes? content with
    | some registry => return some registry
    | none => throw (.state (.badSnapshot .endOfData))
  else
    return none

/-- Replaces the snapshot: the new one is written beside it and renamed, and then the
directory around it is opened to make the change last. -/
def persist (storage : Storage) (registry : Registry) : ExceptT Error m Unit := do
  prepare storage
  attempt .createTemporary (FileOperations.write storage.temporary registry.toBytes)
  attempt .renameTemporary (FileOperations.rename storage.temporary storage.snapshot)
  match storage.snapshot.parent? with
  | some parent => attempt .openParent (FileOperations.touch parent)
  | none => return ()

/-- Appends events one by one and then replaces the snapshot. -/
def commit (storage : Storage) (registry : Registry) (events : List Event) :
    ExceptT Error m Unit := do
  events.forM (appendEvent storage)
  persist storage registry

end Storage

end RetryTickets
