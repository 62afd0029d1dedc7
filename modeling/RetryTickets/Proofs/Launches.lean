-- The command line, launched again and again over one data directory. What it
-- finds there is what the same operations would have made in memory.
import Mathlib.Data.List.Induction
import RetryTickets.Proofs.Consoles
import RetryTickets.Proofs.Names
import RetryTickets.Proofs.Requests

namespace RetryTickets.CommandLine

open Disk

/-! ## The commands -/

section Commands

variable {made disk : Disk} {directory : Path} {place : List String}
  {files : String → Option Bytes} {memory : Memory} {run : Run}

/-- A program that plays a request on the files of a directory. -/
def Follows (made : Disk) (directory : Path) (place : List String) (disk : Disk)
    (files : String → Option Bytes) (memory : Memory) (program : Console OnDisk Unit)
    (request : Except InputFault (Option Operation)) (mutates : Bool) : Prop :=
  ∃ result next after, Comes program disk result next ∧ Keeps made directory place next after ∧
    Plays memory request mutates result files after

variable (hoffers : Offers made directory place) (hkeeps : Keeps made directory place disk files)
  (hmirrors : Mirrors files memory)

include hoffers hkeeps hmirrors

/-- The snapshot holds what was kept. -/
theorem kept_eq (hfits : memory.ledger.registry.Fits) :
    disk.kept (directory.join "tickets.bin") = .ok memory.kept := by
  unfold Disk.kept
  rw [hkeeps.sight hoffers "tickets.bin" (by simp [dataFiles]), hmirrors.snapshot]
  unfold Memory.kept
  cases memory.saved with
  | false => rfl
  | true =>
    simp only [if_true, Option.map_some, Option.elim_some]
    rw [Registry.ofBytes?_toBytes hfits]

/-- The log holds all events. -/
theorem logged_eq :
    disk.logged (directory.join "events.log") = .ok memory.ledger.events := by
  have hread := hmirrors.log.ofRecords
  unfold Disk.logged
  rw [hkeeps.sight hoffers "events.log" (by simp [dataFiles])]
  cases hlog : files "events.log" with
  | none =>
    rw [hlog] at hread
    have hnone : Event.ofRecords [] = .ok memory.ledger.events := hread
    rw [Event.Framed.nil.ofRecords] at hnone
    exact congrArg Except.ok (Except.ok.inj hnone)
  | some content =>
    rw [hlog] at hread
    show (Event.ofRecords content).mapError Error.state = _
    rw [show Event.ofRecords content = _ from hread]
    rfl

theorem comes_registry (hstorage : run.storage = .inDirectory directory)
    (hfits : memory.ledger.registry.Fits) :
    Comes run.registry disk (.ok memory.ledger.registry) disk := by
  have hload : disk.run run.storage.loadSnapshot = (.ok memory.kept, disk) := by
    rw [run_loadSnapshot, hstorage]
    exact congrArg (·, disk) (kept_eq hoffers hkeeps hmirrors hfits)
  rw [← hmirrors.registry_eq]
  exact (Comes.stored hload).bind (Comes.pure _ disk)

theorem comes_commit (hstorage : run.storage = .inDirectory directory) (registry : Registry)
    (events : List Event) :
    ∃ next, Comes (Console.stored (run.storage.commit registry events)) disk (.ok ()) next ∧
      Keeps made directory place next
        (Function.update
          (Function.update files "events.log" (Keeps.logAfter (files "events.log") events))
          "tickets.bin" (some registry.toBytes)) := by
  obtain ⟨next, hcommit, hnext⟩ := hkeeps.run_commit hoffers hmirrors.temporary registry events
  rw [hstorage]
  exact ⟨next, Comes.stored hcommit, hnext⟩

theorem follows_init (hdirectory : run.config.dataDirectory = directory) :
    Follows made directory place disk files memory run.init (.ok none) false := by
  have hnext := hkeeps.run_makeDirectories hoffers .createDirectory
  unfold Run.init
  rw [hdirectory]
  rcases hrun : disk.run (Storage.attempt .createDirectory
      (FileOperations.makeDirectories directory)) with ⟨error | u, next⟩
  · rw [hrun] at hnext
    exact ⟨_, next, files, Comes.bind_error (Comes.stored hrun), hnext, .of_none hmirrors _ _⟩
  · rw [hrun] at hnext
    exact ⟨_, next, files, (Comes.stored hrun).bind (Comes.answer _ next), hnext,
      .of_none hmirrors _ _⟩

theorem follows_events (hstorage : run.storage = .inDirectory directory) (ticket : Option String) :
    Follows made directory place disk files memory (run.events ticket)
      (Command.request run.context run.config.gasLimit memory.ledger.registry.size
        (.events ticket)) false := by
  have hload : disk.run run.storage.loadEvents = (.ok memory.ledger.events, disk) := by
    rw [run_loadEvents, hstorage]
    exact congrArg (·, disk) (logged_eq hoffers hkeeps hmirrors)
  have hlist : ∀ ticket : Option TicketId, Comes (do
      let events ← Console.stored run.storage.loadEvents
      let listed := events.filter fun event => ticket.all (event.ticket = ·)
      Console.answer (Layout.renderList run.config.outputFormat (listed.map Report.ofEvent)))
      disk (.ok ()) disk :=
    fun _ => (Comes.stored hload).bind (Comes.answer _ disk)
  unfold Run.events
  cases ticket with
  | none =>
    exact ⟨_, disk, files, (Comes.pure none disk).bind (hlist none), hkeeps, .of_none hmirrors _ _⟩
  | some id =>
    have hrequest : Command.request run.context run.config.gasLimit memory.ledger.registry.size
        (.events (some id)) = (TicketId.parse id).map fun _ => none := rfl
    rw [hrequest]
    dsimp only
    cases hid : TicketId.parse id with
    | error fault =>
      have hgiven := Comes.given_error (rfl : (Except.error fault : Except _ TicketId) = _) disk
      exact ⟨_, disk, files, Comes.bind_error hgiven, hkeeps,
        .of_fault hmirrors _ _⟩
    | ok found =>
      have hgiven : Comes (Console.given (.ok found)) disk (.ok found) disk := Comes.given rfl disk
      exact ⟨_, disk, files, hgiven.bind ((Comes.pure (some found) disk).bind (hlist (some found))),
        hkeeps, .of_none hmirrors _ _⟩

variable (hstorage : run.storage = .inDirectory directory) (hfits : memory.ledger.registry.Fits)

include hstorage hfits

theorem follows_create (beneficiary target : String) (value : BitVec 128) (calldata : String)
    (id : Option String) :
    Follows made directory place disk files memory
      (run.create beneficiary target value calldata id)
      (Command.request run.context run.config.gasLimit memory.ledger.registry.size
        (.create beneficiary target value calldata id)) true := by
  have hregistry := comes_registry hoffers hkeeps hmirrors hstorage hfits
  have hrequest : Command.request run.context run.config.gasLimit memory.ledger.registry.size
      (.create beneficiary target value calldata id) =
        (newTicket run.context memory.ledger.registry.size beneficiary target value calldata id).map
          fun ticket => some (.create ticket) := rfl
  unfold Run.create
  rw [hrequest]
  cases hticket : newTicket run.context memory.ledger.registry.size beneficiary target value
      calldata id with
  | error fault =>
    exact ⟨_, disk, files, hregistry.bind (Comes.bind_error (Comes.given_error hticket disk)), hkeeps,
      .of_fault hmirrors _ _⟩
  | ok ticket =>
    have hgiven := Comes.given hticket disk
    cases hget : memory.ledger.registry.get? ticket.id with
    | some found =>
      have hperform := Comes.perform_error run.level disk (Dispatch.createTicket_of_taken
        (s := Operation.trial memory.ledger.registry (.ofLimit 0)) hget)
      exact ⟨_, disk, files, hregistry.bind (hgiven.bind (Comes.bind_error hperform)), hkeeps,
        .of_unchanged hmirrors (Operation.perform_create_of_taken hget) rfl _⟩
    | none =>
      have hperform := Comes.perform run.level disk (Dispatch.createTicket_of_new
        (s := Operation.trial memory.ledger.registry (.ofLimit 0)) hget)
      obtain ⟨next, hcommit, hnext⟩ := comes_commit hoffers hkeeps hmirrors hstorage
        (memory.ledger.registry.put ticket.id ticket) [.created ticket.id]
      exact ⟨_, next, _, hregistry.bind (hgiven.bind (hperform.bind
          (hcommit.bind (Comes.answer _ next)))), hnext,
        .of_committed hmirrors (Operation.perform_create_of_new hget) rfl rfl⟩

theorem follows_complete (id : String) :
    Follows made directory place disk files memory (run.complete id)
      (Command.request run.context run.config.gasLimit memory.ledger.registry.size (.complete id))
      true := by
  have hregistry := comes_registry hoffers hkeeps hmirrors hstorage hfits
  have hrequest : Command.request run.context run.config.gasLimit memory.ledger.registry.size
      (.complete id) = (TicketId.parse id).map fun id => some (.complete id run.context.now) := rfl
  unfold Run.complete
  cases hid : TicketId.parse id with
  | error fault =>
    rw [hrequest, hid]
    exact ⟨_, disk, files, Comes.bind_error (Comes.given_error rfl disk), hkeeps,
      .of_fault hmirrors _ _⟩
  | ok id =>
    rw [hrequest, hid]
    have hgiven : Comes (Console.given (.ok id)) disk (.ok id) disk := Comes.given rfl disk
    cases hlive : memory.ledger.registry.live? id run.context.now with
    | none =>
      have hperform := Comes.perform_error run.level disk (Dispatch.completeRedeem_of_dead
        (s := Operation.trial memory.ledger.registry (.ofLimit 0)) hlive)
      exact ⟨_, disk, files, hgiven.bind (hregistry.bind (Comes.bind_error hperform)), hkeeps,
        .of_unchanged hmirrors (Operation.perform_complete_of_dead hlive) rfl _⟩
    | some ticket =>
      have hperform := Comes.perform run.level disk (Dispatch.completeRedeem_of_live
        (s := Operation.trial memory.ledger.registry (.ofLimit 0)) hlive)
      obtain ⟨next, hcommit, hnext⟩ := comes_commit hoffers hkeeps hmirrors hstorage
        (memory.ledger.registry.erase id) [.redeemed id]
      exact ⟨_, next, _, hgiven.bind (hregistry.bind (hperform.bind
          (hcommit.bind (Comes.answer _ next)))), hnext,
        .of_committed hmirrors (Operation.perform_complete_of_live hlive) rfl rfl⟩

/-- A call that goes through is committed, unless it only asks. -/
theorem follows_call (call : Call) :
    Follows made directory place disk files memory (run.call call)
      (.ok (some (.call call run.context (.ofLimit run.config.gasLimit)))) (! call.isReadOnly) := by
  have hregistry := comes_registry hoffers hkeeps hmirrors hstorage hfits
  unfold Run.call
  cases hact : call.act run.context
      (Operation.trial memory.ledger.registry (.ofLimit run.config.gasLimit)) with
  | error error stopped =>
    obtain ⟨told, hexecute⟩ := Dispatch.execute_of_error hact EventLog.empty []
    refine ⟨_, disk, files, hregistry.bind ?_, hkeeps,
      .of_unchanged hmirrors (Operation.perform_call_of_error hact) (Bool.and_false _) _⟩
    simp only [hexecute, Receipt.isSuccess, Option.isNone_some, Bool.false_and, Bool.false_eq_true,
      if_false]
    exact (Comes.print _ disk).bind ((Comes.answer _ disk).bind (Comes.throw error disk))
  | ok output done =>
    -- The log of a launch starts empty, so it holds what the method logged and nothing else.
    obtain ⟨told, hexecute⟩ := Dispatch.execute_of_ok hact EventLog.empty []
    have hperform := Operation.perform_call_of_ok hact
    rw [Dispatch.offered_log] at hexecute
    cases hasks : call.isReadOnly with
    | true =>
      obtain ⟨hstore, hevents⟩ := Effect.of_isReadOnly hasks (effect_of_act hact)
      rw [hstore, hevents, List.append_nil] at hperform
      refine ⟨_, disk, files, hregistry.bind ?_, hkeeps, .of_unchanged hmirrors hperform
        (by simp [Operation.mutates, hasks]) _⟩
      simp only [hexecute, Bool.not_true, Bool.and_false, Bool.false_eq_true, if_false]
      exact (Comes.print _ disk).bind ((Comes.answer _ disk).bind (Comes.pure () disk))
    | false =>
      obtain ⟨next, hcommit, hnext⟩ :=
        comes_commit hoffers hkeeps hmirrors hstorage done.store done.sink.events
      refine ⟨_, next, _, hregistry.bind ?_, hnext, .of_committed hmirrors hperform
        (by simp [Operation.mutates, hasks]) rfl⟩
      simp only [hexecute, Receipt.isSuccess, Option.isNone_none, Bool.not_false,
        Bool.and_self, if_true]
      exact (Comes.print _ disk).bind (hcommit.bind ((Comes.answer _ next).bind (Comes.pure () next)))

theorem follows_onTicket (command : TicketCommand) (id : String) :
    Follows made directory place disk files memory (run.command (.onTicket command id))
      (Command.request run.context run.config.gasLimit memory.ledger.registry.size
        (.onTicket command id)) (Command.onTicket command id).mutates := by
  have hrequest : Command.request run.context run.config.gasLimit memory.ledger.registry.size
      (.onTicket command id) = (TicketId.parse id).map fun id =>
        some (.call (command.call id) run.context (.ofLimit run.config.gasLimit)) := rfl
  unfold Run.command
  rw [hrequest]
  dsimp only
  cases hid : TicketId.parse id with
  | error fault =>
    have hgiven := Comes.given_error (rfl : (Except.error fault : Except _ TicketId) = _) disk
    exact ⟨_, disk, files, Comes.bind_error hgiven, hkeeps, .of_fault hmirrors _ _⟩
  | ok found =>
    have hgiven : Comes (Console.given (.ok found)) disk (.ok found) disk := Comes.given rfl disk
    obtain ⟨result, next, after, hcall, hnext, hplays⟩ :=
      follows_call hoffers hkeeps hmirrors hstorage hfits (command.call found)
    have hmutates : (! (command.call found).isReadOnly) = (Command.onTicket command id).mutates := by
      cases command <;> rfl
    rw [hmutates] at hplays
    exact ⟨result, next, after, hgiven.bind hcall, hnext, hplays⟩

/-- Every command does on files what its request does in memory. -/
theorem follows_command (hdirectory : run.config.dataDirectory = directory) (command : Command) :
    Follows made directory place disk files memory (run.command command)
      (Command.request run.context run.config.gasLimit memory.ledger.registry.size command)
      command.mutates := by
  cases command with
  | init => exact follows_init hoffers hkeeps hmirrors hdirectory
  | create beneficiary target value calldata id =>
    exact follows_create hoffers hkeeps hmirrors hstorage hfits beneficiary target value calldata id
  | onTicket command id => exact follows_onTicket hoffers hkeeps hmirrors hstorage hfits command id
  | complete id => exact follows_complete hoffers hkeeps hmirrors hstorage hfits id
  | lifetime => exact follows_call hoffers hkeeps hmirrors hstorage hfits .getLifetime
  | events ticket => exact follows_events hoffers hkeeps hmirrors hstorage ticket

end Commands

/-! ## Launches -/

/-- The command line at work: where it is launched, with which variables, when and how. -/
structure Launch where
  working : Path
  environment : Environment
  clock : UInt64
  invocation : Invocation

namespace Launch

/-- The settings of a launch. -/
def config (launch : Launch) : Config :=
  configOf launch.working launch.environment launch.invocation

/-- The caller that a launch names. -/
def caller (launch : Launch) : Except InputFault Address :=
  match launch.invocation.caller with
  | some text => Address.parse text
  | none => .ok .zero

/-- The operation that a launch asks for when there are so many tickets. -/
def request (launch : Launch) (size : Nat) : Except InputFault (Option Operation) := do
  let caller ← launch.caller
  launch.invocation.command.request ⟨caller, launch.invocation.now.getD launch.clock⟩
    launch.config.gasLimit size

/-- Launches on a disk: what is answered and printed, and the disk that is left. -/
def run (launch : Launch) (disk : Disk) : (Except Error Unit × List Line) × Disk :=
  (Console.transcript
    (execute launch.working launch.environment launch.clock launch.invocation) : OnDisk _) disk

/-- The disk after some launches. -/
def runAll (launches : List Launch) (disk : Disk) : Disk :=
  launches.foldl (fun disk launch => (launch.run disk).2) disk

end Launch

/-- What the same operations, one after the other, come to in memory. -/
def Memory.after (launches : List Launch) : Memory :=
  launches.foldl (fun memory launch => memory.step (launch.request memory.ledger.registry.size)) .start

theorem Memory.after_nil : Memory.after [] = .start := rfl

theorem Memory.after_append_singleton (launches : List Launch) (launch : Launch) :
    Memory.after (launches ++ [launch]) = (Memory.after launches).step
      (launch.request (Memory.after launches).ledger.registry.size) := by
  simp only [Memory.after, List.foldl_append, List.foldl_cons, List.foldl_nil]

theorem Launch.runAll_append_singleton (launches : List Launch) (launch : Launch) (disk : Disk) :
    Launch.runAll (launches ++ [launch]) disk = (launch.run (Launch.runAll launches disk)).2 := by
  simp only [Launch.runAll, List.foldl_append, List.foldl_cons, List.foldl_nil]

section Launches

variable {made disk : Disk} {directory : Path} {place : List String}
  {files : String → Option Bytes} {memory : Memory}

/-- A launch does on files what its request does in memory. -/
theorem Launch.follows (launch : Launch) (hdirectory : launch.config.dataDirectory = directory)
    (hoffers : Offers made directory place) (hkeeps : Keeps made directory place disk files)
    (hmirrors : Mirrors files memory) (hfits : memory.ledger.registry.Fits) :
    Follows made directory place disk files memory
      (execute launch.working launch.environment launch.clock launch.invocation)
      (launch.request memory.ledger.registry.size) launch.invocation.command.mutates := by
  have hopen : execute (m := OnDisk) launch.working launch.environment launch.clock
      launch.invocation = Console.given launch.caller >>= fun caller =>
        Run.command ⟨launch.config, ⟨launch.config.eventLogPath, launch.config.snapshotPath⟩,
          Level.ofText launch.config.logLevel,
          ⟨caller, launch.invocation.now.getD launch.clock⟩⟩ launch.invocation.command := by
    unfold execute Launch.caller
    cases launch.invocation.caller with
    | none => rfl
    | some text => rfl
  rw [hopen]
  unfold Launch.request
  cases hcaller : launch.caller with
  | error fault =>
    exact ⟨_, disk, files, Comes.bind_error (Comes.given_error rfl disk), hkeeps,
      .of_fault hmirrors _ _⟩
  | ok caller =>
    let run : Run := ⟨launch.config, ⟨launch.config.eventLogPath, launch.config.snapshotPath⟩,
      Level.ofText launch.config.logLevel, ⟨caller, launch.invocation.now.getD launch.clock⟩⟩
    have hstorage : run.storage = .inDirectory directory := by
      rw [← hdirectory]
      rfl
    obtain ⟨result, next, after, hcommand, hnext, hplays⟩ :=
      follows_command hoffers hkeeps hmirrors hstorage hfits hdirectory launch.invocation.command
    exact ⟨result, next, after, (Comes.given rfl disk).bind hcommand, hnext, hplays⟩

/-- All launches together do on files what their requests do in memory. -/
theorem runAll_follows (hoffers : Offers made directory place) (launches : List Launch)
    (hkeeps : Keeps made directory place disk fun _ => none)
    (hdirectory : ∀ launch ∈ launches, launch.config.dataDirectory = directory)
    (hfits : ∀ earlier, earlier <+: launches → (Memory.after earlier).ledger.registry.Fits) :
    ∃ files, Keeps made directory place (Launch.runAll launches disk) files ∧
      Mirrors files (Memory.after launches) := by
  -- From the last launch, for it finds the files and the memory that the others left.
  induction launches using List.reverseRecOn with
  | nil => exact ⟨_, hkeeps, .start⟩
  | append_singleton launches launch ih =>
    obtain ⟨files, hbefore, hmirrors⟩ := ih
      (fun other hother => hdirectory other (List.mem_append_left _ hother))
      (fun earlier hearlier => hfits earlier (hearlier.trans (List.prefix_append _ _)))
    obtain ⟨result, next, after, hcomes, hnext, hplays⟩ := launch.follows
      (hdirectory launch (by simp)) hoffers hbefore hmirrors (hfits launches (List.prefix_append _ _))
    obtain ⟨printed, hrun⟩ := hcomes.transcript
    rw [Launch.runAll_append_singleton, Memory.after_append_singleton]
    unfold Launch.run
    rw [hrun]
    exact ⟨after, hnext, hplays.mirrors⟩

/-- Launched again and again over one data directory, the command line keeps on files what the same
operations come to in memory, as long as 64 bits can count the tickets and their calldata. After
any launches the snapshot holds the tickets, if a change was ever kept, and the log holds all
events in order. Whatever is launched next answers what its request answers in memory, and what is
refused or only asks leaves both files as they are. -/
theorem commands_do_on_files_what_they_do_in_memory (hadmits : Admits disk directory)
    (launches : List Launch)
    (hdirectory : ∀ launch ∈ launches, launch.config.dataDirectory = directory)
    (hfits : ∀ earlier, earlier <+: launches → (Memory.after earlier).ledger.registry.Fits) :
    let storage := Storage.inDirectory directory
    let memory := Memory.after launches
    let after := Launch.runAll launches disk
    after.run storage.loadSnapshot = (.ok memory.kept, after) ∧
      after.run storage.loadEvents = (.ok memory.ledger.events, after) ∧
      ∀ launch : Launch, launch.config.dataDirectory = directory →
        let request := launch.request memory.ledger.registry.size
        let ((result, _), next) := launch.run after
        (∀ fault, request = .error fault → result = .error (.input fault)) ∧
          (∀ operation, request = .ok (some operation) →
            result = (operation.perform memory.ledger).1.outcome) ∧
          (result ≠ .ok () ∨ launch.invocation.command.mutates = false →
            next.read storage.events = after.read storage.events ∧
              next.read storage.snapshot = after.read storage.snapshot) := by
  obtain ⟨made, place, hoffers, hkeeps⟩ := hadmits.offers
  obtain ⟨files, hafter, hmirrors⟩ := runAll_follows hoffers launches hkeeps hdirectory hfits
  have hlast := hfits launches (List.prefix_refl _)
  refine ⟨?_, ?_, fun launch hlaunch => ?_⟩
  · rw [run_loadSnapshot]
    exact congrArg (·, _) (kept_eq hoffers hafter hmirrors hlast)
  · rw [run_loadEvents]
    exact congrArg (·, _) (logged_eq hoffers hafter hmirrors)
  · obtain ⟨result, next, changed, hcomes, hnext, hplays⟩ :=
      launch.follows hlaunch hoffers hafter hmirrors hlast
    obtain ⟨printed, hrun⟩ := hcomes.transcript
    unfold Launch.run
    rw [hrun]
    refine ⟨hplays.refused, hplays.answered, fun hsame => ?_⟩
    obtain rfl := hplays.unchanged hsame
    have hread : ∀ file ∈ dataFiles, next.read (directory.join file) =
        (Launch.runAll launches disk).read (directory.join file) := by
      intro file hfile
      rw [read_eq, read_eq, hnext.sight hoffers file hfile, hafter.sight hoffers file hfile]
    exact ⟨hread "events.log" (by simp [dataFiles]), hread "tickets.bin" (by simp [dataFiles])⟩

end Launches

/-! ## A ticket that is kept -/

/-- A launch at a time, over the data directory beside the working one's files. -/
def Launch.inData (now : UInt64) (command : Command) : Launch :=
  ⟨⟨["home"]⟩, .empty, 0, ⟨none, some "data", none, some now, none, command⟩⟩

/-- The text of an address of zeros. -/
def zeros : String := "0000000000000000000000000000000000000000"

/-- The text of a ticket id of ones. -/
def ones : String := "1111111111111111111111111111111111111111111111111111111111111111"

/-- The making of a ticket, five seconds after time began. -/
def Launch.makeFirst : Launch := .inData 5 (.create zeros zeros 7 "" (some ones))

/-- The ticket that is made. -/
def firstTicket : Ticket := ⟨.ones, .zero, .zero, 7, .zero, [], 604805, 0⟩

/-- Someone who is not the beneficiary. -/
def stranger : Address := ⟨List.replicate 20 0x22, rfl⟩

/-- The text of the stranger's address. -/
def twos : String := "2222222222222222222222222222222222222222"

/-- The stranger tries to give the ticket up. -/
def Launch.meddle : Launch :=
  { Launch.inData 7 (.onTicket .cancel ones) with invocation.caller := some twos }

/-- The ticket is kept alive, ten seconds after time began. -/
def Launch.keepFirst : Launch := .inData 10 (.onTicket .keepalive ones)

/-- A ticket is made, a stranger tries to give it up, and it is kept alive. -/
def Launch.keeping : List Launch := [.makeFirst, .meddle, .keepFirst]

/-- The ticket that is kept. -/
def keptTicket : Ticket := { firstTicket with timeout := 604810 }

theorem admits_data : (Disk.blank "home").Admits ⟨["data"]⟩ := by
  have hmake : (FileOperations.makeDirectories ⟨["data"]⟩ : OnDisk _) (Disk.blank "home") =
      (.ok (), ⟨[("home", .folder [("data", .folder [])])], ["home"]⟩) := rfl
  refine admits_of_makeDirectories (by decide) hmake fun file hfile => ?_
  simp only [dataFiles, List.mem_cons, List.not_mem_nil, or_false] at hfile
  rcases hfile with rfl | rfl | rfl <;> rfl

theorem parse_zeros : Address.parse zeros = .ok .zero :=
  FixedBytes.parse_of_toLower (by decide +kernel)

theorem parse_ones : TicketId.parse ones = .ok .ones :=
  FixedBytes.parse_of_toLower (by decide +kernel)

theorem parse_twos : Address.parse twos = .ok stranger :=
  FixedBytes.parse_of_toLower (by decide +kernel)

theorem newTicket_first : newTicket ⟨.zero, 5⟩ 0 zeros zeros 7 "" (some ones) = .ok firstTicket := by
  have hcalldata : parseCalldata "" = .ok [] := rfl
  have htimeout : Gas.plus? 5 Ticket.lifetime = some 604805 := by decide
  unfold newTicket
  simp only [hcalldata, htimeout, parse_zeros, parse_ones]
  rfl

theorem request_inData (now : UInt64) (size : Nat) (beneficiary target : String)
    (value : BitVec 128) (calldata : String) (id : Option String) :
    (Launch.inData now (.create beneficiary target value calldata id)).request size =
      (newTicket ⟨.zero, now⟩ size beneficiary target value calldata id).map fun ticket =>
        some (.create ticket) := rfl

/-- A command on a ticket asks for its call, with all the gas of the settings. -/
theorem request_onTicket {launch : Launch} {command : TicketCommand} {text : String}
    {caller : Address} {id : TicketId} (hcommand : launch.invocation.command = .onTicket command text)
    (hcaller : launch.caller = .ok caller) (hid : TicketId.parse text = .ok id) (size : Nat) :
    launch.request size = .ok (some (.call (command.call id)
      ⟨caller, launch.invocation.now.getD launch.clock⟩ (.ofLimit launch.config.gasLimit))) := by
  unfold Launch.request
  rw [hcaller, hcommand]
  simp only [bind, Except.bind, Command.request, hid, Except.map]

theorem request_meddle (size : Nat) : Launch.meddle.request size =
    .ok (some (.call (.cancel .ones) ⟨stranger, 7⟩ (.ofLimit 1000000))) := by
  have hcaller : Launch.meddle.caller = .ok stranger := parse_twos
  exact request_onTicket rfl hcaller parse_ones size

theorem request_keepFirst (size : Nat) : Launch.keepFirst.request size =
    .ok (some (.call (.keepalive .ones) ⟨.zero, 10⟩ (.ofLimit 1000000))) := by
  have hcaller : Launch.keepFirst.caller = .ok .zero := rfl
  exact request_onTicket rfl hcaller parse_ones size

theorem memory_makeFirst : Memory.after [.makeFirst] =
    ⟨⟨Registry.empty.put .ones firstTicket, [.created .ones]⟩, true⟩ := by
  have hrequest : Launch.makeFirst.request Memory.start.ledger.registry.size =
      .ok (some (.create firstTicket)) := by
    unfold Launch.makeFirst
    rw [request_inData]
    exact congrArg (Except.map _) newTicket_first
  have hperform : (Operation.create firstTicket).perform Memory.start.ledger =
      (.made (.ok .ones), ⟨Registry.empty.put .ones firstTicket, [.created .ones]⟩) :=
    Operation.perform_create_of_new rfl
  rw [← List.nil_append [Launch.makeFirst], Memory.after_append_singleton, Memory.after_nil, hrequest,
    Memory.step_of_perform hperform]
  rfl

theorem memory_meddle : Memory.after [.makeFirst, .meddle] =
    ⟨⟨Registry.empty.put .ones firstTicket, [.created .ones]⟩, true⟩ := by
  have hsplit : [Launch.makeFirst, .meddle] = [.makeFirst] ++ [.meddle] := rfl
  rw [hsplit, Memory.after_append_singleton, request_meddle, memory_makeFirst]
  rfl

theorem memory_keeping : Memory.after Launch.keeping =
    ⟨⟨Registry.empty.put .ones keptTicket, [.created .ones, .extended .ones 604810]⟩, true⟩ := by
  have hsplit : Launch.keeping = [.makeFirst, .meddle] ++ [.keepFirst] := rfl
  rw [hsplit, Memory.after_append_singleton, request_keepFirst, memory_meddle]
  rfl

theorem inData_keeping : ∀ launch ∈ Launch.keeping, launch.config.dataDirectory = ⟨["data"]⟩ := by
  rintro launch (_ | ⟨_, _ | ⟨_, _ | ⟨_, ⟨⟩⟩⟩⟩) <;> rfl

/-- Three launches begin with none, one, two or all of them. -/
theorem prefix_three {first second third : Launch} {earlier : List Launch}
    (h : earlier <+: [first, second, third]) :
    earlier = [] ∨ earlier = [first] ∨ earlier = [first, second] ∨
      earlier = [first, second, third] := by
  rcases List.prefix_cons_iff.1 h with rfl | ⟨_, rfl, hone⟩
  · exact Or.inl rfl
  rcases List.prefix_cons_iff.1 hone with rfl | ⟨_, rfl, htwo⟩
  · exact Or.inr (Or.inl rfl)
  rcases List.prefix_cons_iff.1 htwo with rfl | ⟨_, rfl, hthree⟩
  · exact Or.inr (Or.inr (Or.inl rfl))
  rw [List.prefix_nil.1 hthree]
  exact Or.inr (Or.inr (Or.inr rfl))

theorem fits_keeping {earlier : List Launch} (h : earlier <+: Launch.keeping) :
    (Memory.after earlier).ledger.registry.Fits := by
  have hkept : Memory.after [.makeFirst, .meddle, .keepFirst] = _ := memory_keeping
  rcases prefix_three h with rfl | rfl | rfl | rfl
  · exact Registry.fits_of_no_calldata (by decide) nofun
  · rw [memory_makeFirst]
    exact Registry.fits_of_no_calldata (by decide) (by decide)
  · rw [memory_meddle]
    exact Registry.fits_of_no_calldata (by decide) (by decide)
  · rw [hkept]
    exact Registry.fits_of_no_calldata (by decide) (by decide)

/-- A ticket is found on files once it is made. A later launch reads it back and keeps it alive, and
then it is found as it was kept. The stranger is refused again, and the files stay as they are. -/
theorem a_ticket_is_read_back_and_kept_on_files :
    let first := Launch.runAll [.makeFirst] (.blank "home")
    let after := Launch.runAll Launch.keeping (.blank "home")
    let next := Launch.meddle.run after
    first.run Storage.inData.loadSnapshot =
        (.ok (some (Registry.empty.put .ones firstTicket)), first) ∧
      first.run Storage.inData.loadEvents = (.ok [.created .ones], first) ∧
      after.run Storage.inData.loadSnapshot =
        (.ok (some (Registry.empty.put .ones keptTicket)), after) ∧
      after.run Storage.inData.loadEvents = (.ok [.created .ones, .extended .ones 604810], after) ∧
      next.1.1 = .error (.unauthorized stranger .zero) ∧
      next.2.read Storage.inData.events = after.read Storage.inData.events ∧
      next.2.read Storage.inData.snapshot = after.read Storage.inData.snapshot := by
  have hbegins : [Launch.makeFirst] <+: Launch.keeping := ⟨_, rfl⟩
  obtain ⟨hfirst, hcreated, _⟩ := commands_do_on_files_what_they_do_in_memory admits_data
    [.makeFirst] (fun launch hlaunch => inData_keeping launch (hbegins.subset hlaunch))
    (fun earlier hearlier => fits_keeping (hearlier.trans hbegins))
  obtain ⟨hsnapshot, hevents, hnext⟩ := commands_do_on_files_what_they_do_in_memory admits_data
    Launch.keeping inData_keeping fun earlier hearlier => fits_keeping hearlier
  rw [memory_makeFirst] at hfirst hcreated
  rw [memory_keeping] at hsnapshot hevents hnext
  dsimp only
  generalize Launch.runAll Launch.keeping (.blank "home") = after at hsnapshot hevents hnext ⊢
  -- Shown of every launch that asks the same: the stranger's own would be run to see what it does.
  have hrefused : ∀ launch : Launch, launch.config.dataDirectory = ⟨["data"]⟩ →
      (∀ size, launch.request size =
        .ok (some (.call (.cancel .ones) ⟨stranger, 7⟩ (.ofLimit 1000000)))) →
      (launch.run after).1.1 = .error (.unauthorized stranger .zero) ∧
        (launch.run after).2.read Storage.inData.events = after.read Storage.inData.events ∧
        (launch.run after).2.read Storage.inData.snapshot = after.read Storage.inData.snapshot := by
    intro launch hlaunch hrequest
    obtain ⟨_, hanswer, hsame⟩ := hnext launch hlaunch
    have hresult : (launch.run after).1.1 = .error (.unauthorized stranger .zero) :=
      hanswer _ (hrequest _)
    have hfailed : (launch.run after).1.1 ≠ .ok () := by
      rw [hresult]
      exact nofun
    exact ⟨hresult, hsame (Or.inl hfailed)⟩
  have hmeddle : Launch.meddle ∈ Launch.keeping := List.mem_cons_of_mem _ List.mem_cons_self
  exact ⟨hfirst, hcreated, hsnapshot, hevents,
    hrefused .meddle (inData_keeping .meddle hmeddle) request_meddle⟩

end RetryTickets.CommandLine
