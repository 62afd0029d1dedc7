-- Ids that the command line derives. An id is a hash of the caller, the time
-- and the number of tickets, and the number falls when a ticket is taken away.
-- So an id comes up again when its number does, and it is refused as long as
-- the ticket that bears it is still there.
import Mathlib.Data.Set.Function
import RetryTickets.Proofs.Attempts
import RetryTickets.Proofs.Launches

namespace RetryTickets

/-! ## What takes tickets away -/

/-- Whether an operation is there to take a ticket away. -/
def Operation.takes : Operation → Bool
  | .create _ => false
  | .call (.cancel _) _ _ => true
  | .call _ _ _ => false
  | .complete _ _ => true

/-- Nothing else leaves fewer tickets. -/
theorem Effect.size_le {registry after : Registry} {operation : Operation} {logged : List Event}
    (effect : Effect registry operation after logged) (h : operation.takes = false) :
    registry.size ≤ after.size := by
  cases effect with
  | nothing => exact Nat.le_refl _
  | created ticket isNew => exact Registry.size_le_put _ _ registry
  | canceled => cases h
  | extended => exact Registry.size_le_put _ _ registry
  | scheduled => exact Registry.size_le_put _ _ registry
  | redeemed => cases h

namespace CommandLine

open Disk

/-- Whether a command is there to take a ticket away. -/
def Command.takes : Command → Bool
  | .onTicket .cancel _ => true
  | .complete _ => true
  | _ => false

theorem Command.takes_of_request {command : Command} {context : CallContext} {gasLimit : UInt64}
    {size : Nat} {operation : Operation}
    (h : command.request context gasLimit size = .ok (some operation)) :
    operation.takes = command.takes := by
  unfold Command.request at h
  cases command with
  | init => cases h
  | create beneficiary target value calldata id =>
    obtain ⟨ticket, _, hticket⟩ := Except.map_ok_iff.1 h
    cases hticket
    rfl
  | onTicket command id =>
    obtain ⟨found, _, hfound⟩ := Except.map_ok_iff.1 h
    cases hfound
    cases command <;> rfl
  | complete id =>
    obtain ⟨found, _, hfound⟩ := Except.map_ok_iff.1 h
    cases hfound
    rfl
  | lifetime =>
    cases h
    rfl
  | events ticket =>
    cases ticket with
    | none => cases h
    | some id =>
      obtain ⟨found, _, hfound⟩ := Except.map_ok_iff.1 h
      cases hfound

/-! ## What launches ask for -/

/-- The message of 36 bytes that is hashed for an id. -/
def deriveMessage (context : CallContext) (size : Nat) : Bytes :=
  context.caller.toBytes ++ Bytes.big 8 context.now.toNat ++ Bytes.big 8 size

/-- A message tells what it was made from. -/
theorem deriveMessage_inj {context context' : CallContext} {size size' : Nat}
    (hsize : size < 2 ^ 64) (hsize' : size' < 2 ^ 64)
    (h : deriveMessage context size = deriveMessage context' size') :
    context = context' ∧ size = size' := by
  obtain ⟨caller, now⟩ := context
  obtain ⟨caller', now'⟩ := context'
  have hlength : (caller.toBytes ++ Bytes.big 8 now.toNat).length =
      (caller'.toBytes ++ Bytes.big 8 now'.toNat).length := by
    simp [caller.length_eq, caller'.length_eq]
  obtain ⟨hfront, hcount⟩ := List.append_inj h hlength
  obtain ⟨hcaller, htime⟩ := List.append_inj hfront (caller.length_eq.trans caller'.length_eq.symm)
  obtain rfl : caller = caller' := FixedBytes.ext_toBytes hcaller
  obtain rfl : now = now' :=
    UInt64.toNat_inj.1 (Bytes.big_inj now.toNat_lt now'.toNat_lt htime)
  exact ⟨rfl, Bytes.big_inj hsize hsize' hcount⟩

theorem newTicket_derived {context : CallContext} {size : Nat} {beneficiary target : String}
    {value : BitVec 128} {calldata : String} {ticket : Ticket}
    (h : newTicket context size beneficiary target value calldata none = .ok ticket) :
    ticket.id = deriveId context size := by
  unfold newTicket at h
  obtain ⟨id, hid, h⟩ := Except.do_ok_iff.1 h
  obtain ⟨_, _, h⟩ := Except.do_ok_iff.1 h
  have hderived : deriveId context size = id := Except.ok.inj hid
  split at h
  · obtain ⟨_, _, h⟩ := Except.do_ok_iff.1 h
    obtain ⟨_, _, h⟩ := Except.do_ok_iff.1 h
    obtain ⟨_, _, h⟩ := Except.do_ok_iff.1 h
    rw [hderived, ← Except.ok.inj h]
  · cases h

namespace Launch

/-- Who is calling, and when. -/
def context? (launch : Launch) : Except InputFault CallContext :=
  launch.caller.map fun caller => ⟨caller, launch.invocation.now.getD launch.clock⟩

/-- A launch to make a ticket whose id is derived. -/
structure Derives (launch : Launch) (context : CallContext) : Prop where
  context : launch.context? = .ok context
  command : ∃ beneficiary target value calldata,
    launch.invocation.command = .create beneficiary target value calldata none

/-- A launch that gives no id to a ticket that it makes. -/
def NamesNone (launch : Launch) : Prop :=
  ∀ beneficiary target value calldata id,
    launch.invocation.command = .create beneficiary target value calldata id → id = none

variable {launch : Launch} {context : CallContext} {size : Nat}

theorem request_ok {asked : Option Operation} (h : launch.request size = .ok asked) :
    ∃ context, launch.context? = .ok context ∧
      launch.invocation.command.request context launch.config.gasLimit size = .ok asked := by
  obtain ⟨caller, hcaller, hrequest⟩ := Except.bind_ok_iff.1 h
  exact ⟨_, Except.map_ok_iff.2 ⟨caller, hcaller, rfl⟩, hrequest⟩

theorem Derives.id_eq {ticket : Ticket} (h : launch.Derives context)
    (hrequest : launch.request size = .ok (some (.create ticket))) :
    ticket.id = deriveId context size := by
  obtain ⟨other, hother, hcreate⟩ := request_ok hrequest
  obtain rfl : context = other := Except.ok.inj (h.context.symm.trans hother)
  obtain ⟨beneficiary, target, value, calldata, hcommand⟩ := h.command
  unfold Command.request at hcreate
  rw [hcommand] at hcreate
  obtain ⟨made, hmade, hticket⟩ := Except.map_ok_iff.1 hcreate
  cases hticket
  exact newTicket_derived hmade

/-- What asks for a new ticket and gives it no id derives one. -/
theorem NamesNone.derives {ticket : Ticket} (h : launch.NamesNone)
    (hrequest : launch.request size = .ok (some (.create ticket))) :
    ∃ context, launch.Derives context := by
  obtain ⟨context, hcontext, hcreate⟩ := request_ok hrequest
  refine ⟨context, hcontext, ?_⟩
  unfold NamesNone at h
  unfold Command.request at hcreate
  generalize launch.invocation.command = command at h hcreate ⊢
  cases command with
  | create beneficiary target value calldata id =>
    obtain rfl := h _ _ _ _ _ rfl
    exact ⟨beneficiary, target, value, calldata, rfl⟩
  | init => cases hcreate
  | onTicket command id =>
    obtain ⟨_, _, hother⟩ := Except.map_ok_iff.1 hcreate
    cases hother
  | complete id =>
    obtain ⟨_, _, hother⟩ := Except.map_ok_iff.1 hcreate
    cases hother
  | lifetime => cases hcreate
  | events ticket =>
    cases ticket with
    | none => cases hcreate
    | some id =>
      obtain ⟨_, _, hother⟩ := Except.map_ok_iff.1 hcreate
      cases hother

end Launch

/-! ## What is kept in memory -/

section Memory

variable {launches : List Launch} {launch : Launch}

theorem Memory.ledger_after {operation : Operation}
    (h : launch.request (Memory.after launches).ledger.registry.size = .ok (some operation)) :
    (Memory.after (launches ++ [launch])).ledger =
      (operation.perform (Memory.after launches).ledger).2 := by
  rw [Memory.after_append_singleton, h]
  rfl

/-- A launch that asks for an operation performs it, and any other does nothing. -/
theorem Memory.after_cases (launches : List Launch) (launch : Launch) :
    (Memory.after (launches ++ [launch])).ledger.registry =
        (Memory.after launches).ledger.registry ∨
      ∃ operation, launch.request (Memory.after launches).ledger.registry.size =
          .ok (some operation) ∧
        (Memory.after (launches ++ [launch])).ledger =
          (operation.perform (Memory.after launches).ledger).2 := by
  rcases hrequest : launch.request (Memory.after launches).ledger.registry.size with
    fault | _ | operation
  · rw [Memory.after_append_singleton, hrequest]
    exact Or.inl rfl
  · rw [Memory.after_append_singleton, hrequest]
    exact Or.inl rfl
  · exact Or.inr ⟨operation, rfl, Memory.ledger_after hrequest⟩

/-- Launches that take nothing away leave no fewer tickets. -/
theorem size_le_after {launches later : List Launch}
    (h : ∀ launch ∈ later, launch.invocation.command.takes = false) :
    (Memory.after launches).ledger.registry.size ≤
      (Memory.after (launches ++ later)).ledger.registry.size := by
  induction later using List.reverseRecOn with
  | nil => rw [List.append_nil]
  | append_singleton later launch ih =>
    refine (ih fun other hother => h other (List.mem_append_left _ hother)).trans ?_
    rw [← List.append_assoc]
    rcases Memory.after_cases (launches ++ later) launch with hsame | ⟨operation, hrequest, hafter⟩
    · rw [hsame]
    · obtain ⟨context, _, hasked⟩ := Launch.request_ok hrequest
      obtain ⟨logged, effect, _⟩ :=
        perform_effect operation (Memory.after (launches ++ later)).ledger
      rw [hafter]
      apply effect.size_le
      rw [Command.takes_of_request hasked]
      exact h launch (List.mem_append_right _ List.mem_cons_self)

/-- What is there and was not there before is a new ticket. -/
theorem made_of_new {id : TicketId}
    (hnone : (Memory.after launches).ledger.registry.get? id = none)
    (hthere : (Memory.after (launches ++ [launch])).ledger.registry.get? id ≠ none) :
    ∃ ticket, ticket.id = id ∧
      launch.request (Memory.after launches).ledger.registry.size = .ok (some (.create ticket)) ∧
      (Memory.after (launches ++ [launch])).ledger.registry =
        (Memory.after launches).ledger.registry.put id ticket := by
  rcases Memory.after_cases launches launch with hsame | ⟨operation, hrequest, hafter⟩
  · rw [hsame] at hthere
    exact absurd hnone hthere
  · obtain ⟨logged, fate, _⟩ := perform_fate operation (Memory.after launches).ledger id
    rw [hafter] at hthere ⊢
    rw [hnone] at fate
    generalize hget : (operation.perform (Memory.after launches).ledger).2.registry.get? id = found
      at fate hthere
    cases fate with
    | untouched => exact absurd rfl hthere
    | created ticket named =>
      subst named
      exact ⟨ticket, rfl, hrequest, by rw [Operation.perform_create_of_new hnone]⟩

/-- A ticket that was made under a derived id, and is there ever since. -/
structure MadeAndKept (launches earlier between : List Launch) (maker : Launch)
    (context : CallContext) (id : TicketId) : Prop where
  split : launches = earlier ++ maker :: between
  derives : maker.Derives context
  named : id = deriveId context (Memory.after earlier).ledger.registry.size
  isNew : (Memory.after earlier).ledger.registry.get? id = none
  kept : ∀ since, since <+: between →
    (Memory.after (earlier ++ maker :: since)).ledger.registry.get? id ≠ none

namespace MadeAndKept

variable {earlier between : List Launch} {maker : Launch} {context : CallContext} {id : TicketId}

theorem push (h : MadeAndKept launches earlier between maker context id)
    (hthere : (Memory.after (launches ++ [launch])).ledger.registry.get? id ≠ none) :
    MadeAndKept (launches ++ [launch]) earlier (between ++ [launch]) maker context id := by
  obtain ⟨rfl, hderives, hnamed, hnew, hkept⟩ := h
  refine ⟨by simp, hderives, hnamed, hnew, ?_⟩
  intro since hsince
  rcases List.prefix_concat_iff.1 hsince with rfl | hbefore
  · simpa using hthere
  · exact hkept since hbefore

/-- There is one ticket more than before. -/
theorem size_succ (h : MadeAndKept launches earlier between maker context id) :
    (Memory.after (earlier ++ [maker])).ledger.registry.size =
      (Memory.after earlier).ledger.registry.size + 1 := by
  obtain ⟨ticket, _, _, hput⟩ := made_of_new h.isNew (h.kept [] List.nil_prefix)
  rw [hput, Registry.size_put_of_new ticket h.isNew]

/-- If there are no more tickets than before, one was taken away since. -/
theorem exists_taker (h : MadeAndKept launches earlier between maker context id)
    (hsize : (Memory.after launches).ledger.registry.size ≤
      (Memory.after earlier).ledger.registry.size) :
    ∃ taker ∈ between, taker.invocation.command.takes = true := by
  by_contra hnone
  have hgrown : (Memory.after (earlier ++ [maker])).ledger.registry.size ≤
      (Memory.after (earlier ++ [maker] ++ between)).ledger.registry.size := by
    apply size_le_after
    intro other hother
    by_contra htakes
    exact hnone ⟨other, hother, Bool.not_eq_false _ ▸ htakes⟩
  rw [h.size_succ, List.append_assoc, List.singleton_append, ← h.split] at hgrown
  omega

end MadeAndKept

/-- What is there was made under a derived id if no launch gives one. -/
theorem made_and_kept (hnames : ∀ launch ∈ launches, launch.NamesNone) {id : TicketId}
    (hthere : (Memory.after launches).ledger.registry.get? id ≠ none) :
    ∃ earlier maker between context, MadeAndKept launches earlier between maker context id := by
  -- The maker is the last launch that found nothing under the id.
  induction launches using List.reverseRecOn with
  | nil => exact absurd rfl hthere
  | append_singleton launches launch ih =>
    by_cases hfound : (Memory.after launches).ledger.registry.get? id = none
    · obtain ⟨ticket, rfl, hrequest, _⟩ := made_of_new hfound hthere
      obtain ⟨context, hderives⟩ :=
        (hnames launch (List.mem_append_right _ List.mem_cons_self)).derives hrequest
      refine ⟨launches, launch, [], context, rfl, hderives, hderives.id_eq hrequest, hfound, ?_⟩
      intro since hsince
      rw [List.prefix_nil.1 hsince]
      exact hthere
    · obtain ⟨earlier, maker, between, context, hmade⟩ :=
        ih (fun other hother => hnames other (List.mem_append_left _ hother)) hfound
      exact ⟨earlier, maker, between ++ [launch], context, hmade.push hthere⟩

end Memory

/-! ## The law -/

/-- The messages that launches, one after the other, have hashed for ids. -/
def hashedFor (launches : List Launch) : Set Bytes :=
  {message | ∃ earlier launch context, earlier ++ [launch] <+: launches ∧ launch.Derives context ∧
    message = deriveMessage context (Memory.after earlier).ledger.registry.size}

theorem hashedFor_mono {launches more : List Launch} (h : launches <+: more) :
    hashedFor launches ⊆ hashedFor more := by
  rintro _ ⟨earlier, launch, context, hprefix, hderives, rfl⟩
  exact ⟨earlier, launch, context, hprefix.trans h, hderives, rfl⟩

/-- An id comes up again: a ticket that is still there was made under it, by the same caller at the
same time, when there were as many tickets as now, and one was taken away since. -/
def Recurs (launches : List Launch) (context : CallContext) : Prop :=
  ∃ earlier maker between,
    MadeAndKept launches earlier between maker context
      (deriveId context (Memory.after launches).ledger.registry.size) ∧
    (Memory.after earlier).ledger.registry.size = (Memory.after launches).ledger.registry.size ∧
    ∃ taker ∈ between, taker.invocation.command.takes = true

section Law

variable {disk : Disk} {directory : Path} {launches : List Launch} {next : Launch}

/-- What a launch asks for is answered as in memory. -/
theorem Launch.answered_after (hadmits : Admits disk directory)
    (hdirectory : ∀ launch ∈ launches, launch.config.dataDirectory = directory)
    (hfits : ∀ earlier, earlier <+: launches → (Memory.after earlier).ledger.registry.Fits)
    (hnext : next.config.dataDirectory = directory) {operation : Operation}
    (hrequest : next.request (Memory.after launches).ledger.registry.size = .ok (some operation)) :
    (next.run (Launch.runAll launches disk)).1.1 =
      (operation.perform (Memory.after launches).ledger).1.outcome := by
  obtain ⟨made, place, hoffers, hkeeps⟩ := hadmits.offers
  obtain ⟨files, hafter, hmirrors⟩ := runAll_follows hoffers launches hkeeps hdirectory hfits
  obtain ⟨result, _, _, hcomes, _, hplays⟩ :=
    next.follows hnext hoffers hafter hmirrors (hfits launches (List.prefix_refl _))
  obtain ⟨printed, hrun⟩ := hcomes.transcript
  unfold Launch.run
  rw [hrun]
  exact hplays.answered operation hrequest

/-- What is under a derived id was made when the id came up before. -/
theorem recurs_of_found {context : CallContext} (hnames : ∀ launch ∈ launches, launch.NamesNone)
    (hfits : ∀ earlier, earlier <+: launches → (Memory.after earlier).ledger.registry.Fits)
    (hderives : next.Derives context)
    (hdigest : Set.InjOn Sha256.digest (hashedFor (launches ++ [next])))
    (hthere : (Memory.after launches).ledger.registry.get?
      (deriveId context (Memory.after launches).ledger.registry.size) ≠ none) :
    Recurs launches context := by
  obtain ⟨earlier, maker, between, context', hmade⟩ := made_and_kept hnames hthere
  have hbefore : earlier <+: launches := ⟨maker :: between, hmade.split.symm⟩
  have hmessage : deriveMessage context (Memory.after launches).ledger.registry.size ∈
      hashedFor (launches ++ [next]) :=
    ⟨launches, next, context, List.prefix_refl _, hderives, rfl⟩
  have hmessage' : deriveMessage context' (Memory.after earlier).ledger.registry.size ∈
      hashedFor (launches ++ [next]) := by
    refine ⟨earlier, maker, context', ⟨between ++ [next], ?_⟩, hmade.derives, rfl⟩
    rw [hmade.split]
    simp
  obtain ⟨rfl, hsize⟩ := deriveMessage_inj (hfits launches (List.prefix_refl _)).size
    (hfits earlier hbefore).size (hdigest hmessage hmessage' hmade.named)
  exact ⟨earlier, maker, between, hmade, hsize.symm, hmade.exists_taker hsize.le⟩

/-- Whatever was launched before, if no ticket was given an id and SHA-256 told all messages apart,
a ticket for which an id is derived is made, unless the id comes up again while the ticket that
bears it is still there. -/
theorem a_derived_id_is_refused_only_if_it_recurs (hadmits : Admits disk directory)
    (hdirectory : ∀ launch ∈ launches, launch.config.dataDirectory = directory)
    (hfits : ∀ earlier, earlier <+: launches → (Memory.after earlier).ledger.registry.Fits)
    (hnames : ∀ launch ∈ launches, launch.NamesNone)
    (hnext : next.config.dataDirectory = directory) {context : CallContext}
    (hderives : next.Derives context)
    (hdigest : Set.InjOn Sha256.digest (hashedFor (launches ++ [next]))) {ticket : Ticket}
    (hrequest : next.request (Memory.after launches).ledger.registry.size =
      .ok (some (.create ticket))) :
    let result := (next.run (Launch.runAll launches disk)).1.1
    (result = .ok () ∧ ¬ Recurs launches context) ∨
      (result = .error (.store (.alreadyExists ticket.id)) ∧ Recurs launches context) := by
  intro result
  have hanswer : result = _ := Launch.answered_after hadmits hdirectory hfits hnext hrequest
  have hid := hderives.id_eq hrequest
  rw [hanswer]
  cases hget : (Memory.after launches).ledger.registry.get? ticket.id with
  | none =>
    refine Or.inl ⟨by rw [Operation.perform_create_of_new hget]; rfl, ?_⟩
    rintro ⟨earlier, maker, between, hmade, _⟩
    have hthere := hmade.kept between (List.prefix_refl _)
    rw [← hmade.split, ← hid] at hthere
    exact hthere hget
  | some found =>
    refine Or.inr ⟨by rw [Operation.perform_create_of_taken hget]; rfl, ?_⟩
    apply recurs_of_found hnames hfits hderives hdigest
    rw [← hid, hget]
    exact nofun

end Law

/-! ## An id that comes up again -/

/-- The making of a ticket without an id, five seconds after time began. -/
def Launch.makeDerived : Launch := .inData 5 (.create zeros zeros 7 "" none)

/-- The id that is derived for a first ticket then. -/
def firstId : TicketId :=
  ⟨[0x2d, 0x7b, 0x23, 0xed, 0x05, 0x55, 0x19, 0x74, 0x6d, 0x6e, 0x08, 0xa1, 0x40, 0x5f, 0xba, 0x88,
    0xdf, 0x8a, 0xbc, 0x8a, 0x7d, 0xcd, 0xf7, 0xa4, 0x59, 0xcd, 0x79, 0x6d, 0x36, 0x83, 0x69, 0x6d], rfl⟩

/-- The id that is derived for a second one. -/
def secondId : TicketId :=
  ⟨[0xe4, 0x01, 0xd4, 0xf8, 0x39, 0x40, 0x20, 0xfc, 0x90, 0xeb, 0xee, 0x40, 0x47, 0x03, 0xda, 0x96,
    0x6c, 0x4c, 0xd5, 0xfa, 0xb8, 0x5b, 0x58, 0x7a, 0xd0, 0x28, 0x47, 0x91, 0x3b, 0x8f, 0x06, 0x18], rfl⟩

/-- The two tickets. -/
def firstDerived : Ticket := { firstTicket with id := firstId }

def secondDerived : Ticket := { firstTicket with id := secondId }

/-- The first ticket is given up, in the same second. -/
def Launch.giveUpFirst : Launch :=
  .inData 5 (.onTicket .cancel "2d7b23ed055519746d6e08a1405fba88df8abc8a7dcdf7a459cd796d3683696d")

/-- Two tickets are made, and the first is given up. -/
def Launch.twoDerived : List Launch := [.makeDerived, .makeDerived, .giveUpFirst]

theorem derives_makeDerived : Launch.makeDerived.Derives ⟨.zero, 5⟩ :=
  ⟨rfl, zeros, zeros, 7, "", rfl⟩

theorem deriveId_first : deriveId ⟨.zero, 5⟩ 0 = firstId := by decide +kernel

theorem deriveId_second : deriveId ⟨.zero, 5⟩ 1 = secondId := by decide +kernel

theorem request_makeDerived {size : Nat} {id : TicketId} (h : deriveId ⟨.zero, 5⟩ size = id) :
    Launch.makeDerived.request size = .ok (some (.create { firstTicket with id := id })) := by
  have hcalldata : parseCalldata "" = .ok [] := rfl
  have htimeout : Gas.plus? 5 Ticket.lifetime = some 604805 := by decide
  unfold Launch.makeDerived
  rw [request_inData]
  unfold newTicket
  simp only [hcalldata, htimeout, parse_zeros, h]
  rfl

theorem request_giveUpFirst (size : Nat) : Launch.giveUpFirst.request size =
    .ok (some (.call (.cancel firstId) ⟨.zero, 5⟩ (.ofLimit 1000000))) := by
  have hcaller : Launch.giveUpFirst.caller = .ok .zero := rfl
  have hparse : TicketId.parse
      "2d7b23ed055519746d6e08a1405fba88df8abc8a7dcdf7a459cd796d3683696d" = .ok firstId :=
    FixedBytes.parse_of_toLower (by decide +kernel)
  exact request_onTicket rfl hcaller hparse size

theorem ledger_first : (Memory.after [.makeDerived]).ledger =
    ⟨Registry.empty.put firstId firstDerived, [.created firstId]⟩ := by
  have hrequest : Launch.makeDerived.request (Memory.after []).ledger.registry.size =
      .ok (some (.create firstDerived)) := request_makeDerived deriveId_first
  rw [← List.nil_append [Launch.makeDerived], Memory.ledger_after hrequest]
  rfl

theorem request_second {launches : List Launch}
    (h : (Memory.after launches).ledger.registry.size = 1) :
    Launch.makeDerived.request (Memory.after launches).ledger.registry.size =
      .ok (some (.create secondDerived)) := by
  rw [h]
  exact request_makeDerived deriveId_second

theorem ledger_second : (Memory.after [.makeDerived, .makeDerived]).ledger =
    ⟨(Registry.empty.put firstId firstDerived).put secondId secondDerived,
      [.created firstId, .created secondId]⟩ := by
  have hrequest : Launch.makeDerived.request (Memory.after [.makeDerived]).ledger.registry.size =
      .ok (some (.create secondDerived)) := request_second (by rw [ledger_first]; rfl)
  rw [← List.singleton_append, Memory.ledger_after hrequest, ledger_first]
  rfl

theorem ledger_twoDerived : (Memory.after Launch.twoDerived).ledger =
    ⟨Registry.empty.put secondId secondDerived,
      [.created firstId, .created secondId, .canceled firstId]⟩ := by
  have hrequest := request_giveUpFirst
    (Memory.after [.makeDerived, .makeDerived]).ledger.registry.size
  have hsplit : Launch.twoDerived = [.makeDerived, .makeDerived] ++ [.giveUpFirst] := rfl
  rw [hsplit, Memory.ledger_after hrequest, ledger_second]
  rfl

theorem twoDerived_of_prefix {earlier : List Launch} {launch : Launch}
    (h : earlier ++ [launch] <+: Launch.twoDerived) :
    (earlier = [] ∧ launch = .makeDerived) ∨ (earlier = [.makeDerived] ∧ launch = .makeDerived) ∨
      (earlier = [.makeDerived, .makeDerived] ∧ launch = .giveUpFirst) := by
  unfold Launch.twoDerived at h
  rcases earlier with _ | ⟨_, _ | ⟨_, _ | ⟨_, more⟩⟩⟩
  · simpa using h
  · simpa using h
  · simpa [and_assoc] using h
  · simp at h

theorem fits_twoDerived {earlier : List Launch} (h : earlier <+: Launch.twoDerived) :
    (Memory.after earlier).ledger.registry.Fits := by
  have hthird : (Memory.after [.makeDerived, .makeDerived, .giveUpFirst]).ledger = _ :=
    ledger_twoDerived
  rcases prefix_three h with rfl | rfl | rfl | rfl
  · exact Registry.fits_of_no_calldata (by decide) nofun
  · rw [ledger_first]
    exact Registry.fits_of_no_calldata (by decide) (by decide)
  · rw [ledger_second]
    exact Registry.fits_of_no_calldata (by decide) (by decide)
  · rw [hthird]
    exact Registry.fits_of_no_calldata (by decide) (by decide)

theorem inData_twoDerived : ∀ launch ∈ Launch.twoDerived, launch.config.dataDirectory = ⟨["data"]⟩ := by
  rintro launch (_ | ⟨_, _ | ⟨_, _ | ⟨_, ⟨⟩⟩⟩⟩) <;> rfl

theorem namesNone_twoDerived : ∀ launch ∈ Launch.twoDerived, launch.NamesNone := by
  rintro launch (_ | ⟨_, _ | ⟨_, _ | ⟨_, ⟨⟩⟩⟩⟩) _ _ _ _ _ ⟨⟩ <;> rfl

/-- The messages that are hashed are told apart. -/
theorem injOn_twoDerived :
    Set.InjOn Sha256.digest (hashedFor (Launch.twoDerived ++ [.makeDerived])) := by
  have hall : ∀ message ∈ hashedFor (Launch.twoDerived ++ [.makeDerived]),
      message = deriveMessage ⟨.zero, 5⟩ 0 ∨ message = deriveMessage ⟨.zero, 5⟩ 1 := by
    rintro _ ⟨earlier, launch, context, hprefix, hderives, rfl⟩
    have hcontext : ∀ {context}, Launch.makeDerived.Derives context → context = ⟨.zero, 5⟩ :=
      fun h => (Except.ok.inj h.context).symm
    rcases List.prefix_concat_iff.1 hprefix with hlast | hbefore
    · obtain ⟨rfl, hlaunch⟩ := List.append_inj' hlast rfl
      cases hlaunch
      rw [hcontext hderives, ledger_twoDerived]
      exact Or.inr rfl
    rcases twoDerived_of_prefix hbefore with ⟨rfl, rfl⟩ | ⟨rfl, rfl⟩ | ⟨rfl, rfl⟩
    · rw [hcontext hderives]
      exact Or.inl rfl
    · rw [hcontext hderives, ledger_first]
      exact Or.inr rfl
    · obtain ⟨_, _, _, _, hcommand⟩ := hderives.command
      cases hcommand
  intro a ha b hb hdigest
  have hne : deriveId ⟨.zero, 5⟩ 0 ≠ deriveId ⟨.zero, 5⟩ 1 := by
    rw [deriveId_first, deriveId_second]
    decide
  rcases hall a ha with rfl | rfl <;> rcases hall b hb with rfl | rfl
  · rfl
  · exact absurd hdigest hne
  · exact absurd hdigest.symm hne
  · rfl

/-- A second ticket of the same second gets an id of its own. -/
theorem a_second_derived_id_is_new :
    (Launch.makeDerived.run (Launch.runAll [.makeDerived] (.blank "home"))).1.1 = .ok () := by
  have hbegins : [Launch.makeDerived] <+: Launch.twoDerived := ⟨_, rfl⟩
  have hsecond : [Launch.makeDerived] ++ [.makeDerived] <+: Launch.twoDerived ++ [.makeDerived] :=
    ⟨_, rfl⟩
  have hrequest : Launch.makeDerived.request (Memory.after [.makeDerived]).ledger.registry.size =
      .ok (some (.create secondDerived)) := request_second (by rw [ledger_first]; rfl)
  rcases a_derived_id_is_refused_only_if_it_recurs admits_data
    (fun launch hlaunch => inData_twoDerived launch (hbegins.subset hlaunch))
    (fun earlier hearlier => fits_twoDerived (hearlier.trans hbegins))
    (fun launch hlaunch => namesNone_twoDerived launch (hbegins.subset hlaunch)) rfl
    derives_makeDerived (injOn_twoDerived.mono (hashedFor_mono hsecond)) hrequest
    with ⟨hok, _⟩ | ⟨_, earlier, maker, between, hmade, _, taker, htaker, htakes⟩
  · exact hok
  -- Nothing was taken away.
  · have hmem : taker ∈ [Launch.makeDerived] := by
      rw [hmade.split]
      simp [htaker]
    rw [List.mem_singleton.1 hmem] at htakes
    cases htakes

/-- Two tickets are made in the same second and the first is given up. The id that is derived then
is that of the second ticket, which is still there, and a third ticket is refused. -/
theorem a_derived_id_came_up_again :
    (∀ launch ∈ Launch.twoDerived, launch.NamesNone) ∧
      (∀ earlier launch, earlier ++ [launch] <+: Launch.twoDerived →
        (launch.run (Launch.runAll earlier (.blank "home"))).1.1 = .ok ()) ∧
      Set.InjOn Sha256.digest (hashedFor (Launch.twoDerived ++ [.makeDerived])) ∧
      (Launch.makeDerived.run (Launch.runAll Launch.twoDerived (.blank "home"))).1.1 =
        .error (.store (.alreadyExists secondId)) := by
  have hanswer : ∀ {earlier} {launch : Launch} {operation}, earlier <+: Launch.twoDerived →
      launch.config.dataDirectory = ⟨["data"]⟩ →
      launch.request (Memory.after earlier).ledger.registry.size = .ok (some operation) →
      (launch.run (Launch.runAll earlier (.blank "home"))).1.1 =
        (operation.perform (Memory.after earlier).ledger).1.outcome :=
    fun hbegins hlaunch hrequest => Launch.answered_after admits_data
      (fun other hother => inData_twoDerived other (hbegins.subset hother))
      (fun before hbefore => fits_twoDerived (hbefore.trans hbegins)) hlaunch hrequest
  refine ⟨namesNone_twoDerived, ?_, injOn_twoDerived, ?_⟩
  · intro earlier launch hlaunched
    have hearlier := (List.prefix_append earlier [launch]).trans hlaunched
    rcases twoDerived_of_prefix hlaunched with ⟨rfl, rfl⟩ | ⟨rfl, rfl⟩ | ⟨rfl, rfl⟩
    · exact hanswer hearlier rfl (request_makeDerived deriveId_first)
    · rw [hanswer hearlier rfl (request_second (by rw [ledger_first]; rfl)), ledger_first]
      rfl
    · rw [hanswer hearlier rfl (request_giveUpFirst _), ledger_second]
      rfl
  · rw [hanswer (List.prefix_refl _) rfl (request_second (by rw [ledger_twoDerived]; rfl)),
      ledger_twoDerived]
    rfl

end CommandLine

end RetryTickets
