-- What a registry lists, whatever became of it: its tickets in the order of
-- their ids, each of them once and under its own id. The keys rise by the way
-- a registry is made. That they are the ids of their tickets is kept by all that
-- is done with the registry, and by the way through a file and back.
import RetryTickets.Proofs.Entitlement
import RetryTickets.Proofs.SnapshotFormat

namespace RetryTickets

/-! ## Rising entries -/

namespace Entries

variable {key : TicketId} {ticket : Ticket} {entries : Entries}

theorem mem_of_lookup (h : entries.lookup key = some ticket) : (key, ticket) ∈ entries := by
  induction entries with
  | nil => cases h
  | cons entry rest ih =>
    rw [lookup_cons] at h
    split at h
    · rename_i hkey
      cases h
      rw [hkey]
      exact List.mem_cons_self
    · exact List.mem_cons_of_mem entry (ih h)

/-- Under rising keys everything is found. -/
theorem lookup_eq_some_iff (hrising : entries.Ascending) :
    entries.lookup key = some ticket ↔ (key, ticket) ∈ entries := by
  refine ⟨mem_of_lookup, fun h => ?_⟩
  induction entries with
  | nil => cases h
  | cons entry rest ih =>
    obtain ⟨hfirst, hrest⟩ := List.pairwise_cons.1 hrising
    rw [lookup_cons]
    rcases List.mem_cons.1 h with rfl | h
    · exact if_pos rfl
    · have hbelow := hfirst _ h
      rw [if_neg, ih hrest h]
      rintro rfl
      exact FixedBytes.lt_irrefl _ hbelow

/-- What is put under a new key comes between two entries. -/
theorem put_of_new (ticket : Ticket) (h : entries.lookup key = none) :
    ∃ front back, entries = front ++ back ∧ put key ticket entries = front ++ (key, ticket) :: back := by
  induction entries with
  | nil => exact ⟨[], [], rfl, rfl⟩
  | cons entry rest ih =>
    rw [lookup_cons] at h
    split at h
    · cases h
    · rename_i hkey
      unfold put
      rw [if_neg hkey]
      split
      · exact ⟨[], entry :: rest, rfl, rfl⟩
      · obtain ⟨front, back, hrest, hput⟩ := ih h
        refine ⟨entry :: front, back, ?_, ?_⟩
        · rw [hrest, List.cons_append]
        · rw [hput, List.cons_append]

end Entries

namespace Registry

/-! ## Keys and ids -/

variable {registry after : Registry} {id key : TicketId} {ticket : Ticket}

/-- Every ticket is under its own id. -/
def Keyed (registry : Registry) : Prop := ∀ entry ∈ registry.entries, entry.1 = entry.2.id

theorem mem_entries_iff : (key, ticket) ∈ registry.entries ↔ registry.get? key = some ticket :=
  (Entries.lookup_eq_some_iff registry.ascending).symm

theorem keyed_empty : empty.Keyed := nofun

theorem Keyed.put (h : registry.Keyed) (hid : key = ticket.id) : (registry.put key ticket).Keyed := by
  intro entry hentry
  rcases Entries.mem_put hentry with rfl | hentry
  · exact hid
  · exact h entry hentry

/-- What is changed in its place keeps its id. -/
theorem Keyed.put_again (h : registry.Keyed) {next : Ticket} (hget : registry.get? key = some ticket)
    (hid : next.id = ticket.id) : (registry.put key next).Keyed := by
  have hkey : key = ticket.id := h (key, ticket) (mem_entries_iff.2 hget)
  exact h.put (hkey.trans hid.symm)

theorem Keyed.erase (h : registry.Keyed) : (registry.erase key).Keyed := by
  intro entry hentry
  exact h entry (List.mem_filter.1 hentry).1

/-! ## What keeps the keys -/

theorem Keyed.insert (h : registry.Keyed) : (registry.insert ticket).2.Keyed := by
  unfold Registry.insert
  split
  · exact h
  · exact h.put rfl

theorem Keyed.delete (h : registry.Keyed) : (TicketStore.delete id registry).2.Keyed := by
  show (Registry.delete id registry).2.Keyed
  unfold Registry.delete
  split
  · exact h.erase
  · exact h

theorem Keyed.extendExpiry (h : registry.Keyed) {now newTimeout lifetime : UInt64} :
    (TicketStore.extendExpiry id now newTimeout lifetime registry).2.Keyed := by
  show (Registry.extendExpiry id now newTimeout lifetime registry).2.Keyed
  unfold Registry.extendExpiry
  split
  · exact h
  · split
    · exact h
    · rename_i hlive
      split
      · exact h
      · exact h.put_again (live?_eq_some_iff.1 hlive).1 rfl

theorem Keyed.incrementAttempt (h : registry.Keyed) :
    (TicketStore.incrementAttempt id registry).2.Keyed := by
  show (Registry.incrementAttempt id registry).2.Keyed
  unfold Registry.incrementAttempt
  split
  · exact h
  · rename_i hget
    split
    · exact h
    · rename_i hnext
      obtain ⟨_, rfl⟩ := Ticket.nextAttempt?_eq_some_iff.1 hnext
      exact h.put_again hget rfl

/-- An operation puts every ticket under its own id, and takes away or puts back the others. -/
theorem Keyed.effect {operation : Operation} {events : List Event} (h : registry.Keyed)
    (heffect : Effect registry operation after events) : after.Keyed := by
  cases heffect with
  | nothing => exact h
  | created ticket isNew => exact h.put rfl
  | canceled id context meter ticket live entitled => exact h.erase
  | extended id context meter ticket timeout live window =>
    exact h.put_again (live?_eq_some_iff.1 live).1 rfl
  | scheduled id context meter ticket next donated live counted =>
    obtain ⟨_, rfl⟩ := Ticket.nextAttempt?_eq_some_iff.1 counted
    exact h.put_again (live?_eq_some_iff.1 live).1 rfl
  | redeemed id now ticket live => exact h.erase

theorem Keyed.performAt {κ : Type} [EventSink κ] {desk : Desk κ} (h : desk.registry.Keyed)
    (operation : Operation) : (operation.performAt desk).2.registry.Keyed := by
  rw [Operation.registry_performAt]
  obtain ⟨events, heffect, _⟩ := perform_effect operation ⟨desk.registry, []⟩
  exact h.effect heffect

end Registry

/-! ## A run -/

/-- A desk and a disk, and the registries that were given to storage so far. -/
structure Office (κ : Type) where
  desk : Desk κ
  disk : Disk
  stored : List Registry

/-- What can happen in an office. -/
inductive Deed where
  | insert (ticket : Ticket)
  | delete (id : TicketId)
  | extend (id : TicketId) (now newTimeout lifetime : UInt64)
  | count (id : TicketId)
  | operate (operation : Operation)
  /-- The registry is persisted. -/
  | persist (storage : Storage)
  /-- What storage holds takes the place of the registry. -/
  | load (storage : Storage)
  /-- Others change the disk. -/
  | disturb (disk : Disk)

namespace Deed

variable {κ : Type} [EventSink κ]

/-- The office after a deed. -/
def perform (office : Office κ) : Deed → Office κ
  | insert ticket =>
    { office with desk.registry := (office.desk.registry.insert ticket).2 }
  | delete id =>
    { office with desk.registry := (TicketStore.delete id office.desk.registry).2 }
  | extend id now newTimeout lifetime =>
    { office with
      desk.registry := (TicketStore.extendExpiry id now newTimeout lifetime office.desk.registry).2 }
  | count id =>
    { office with desk.registry := (TicketStore.incrementAttempt id office.desk.registry).2 }
  | operate operation => { office with desk := (operation.performAt office.desk).2 }
  | persist storage =>
    { office with
      disk := (office.disk.run (storage.persist office.desk.registry)).2
      stored := office.desk.registry :: office.stored }
  | load storage =>
    match office.disk.run storage.loadSnapshot with
    | (.ok (some registry), disk) => { office with desk.registry := registry, disk }
    | (_, disk) => { office with disk }
  | disturb disk => { office with disk }

/-- What is loaded must have been persisted before, in numbers that fit. -/
def Allowed (office : Office κ) : Deed → Prop
  | load storage => ∀ content, office.disk.read storage.snapshot = .ok content →
    ∃ registry ∈ office.stored, registry.Fits ∧ content = registry.toBytes
  | _ => True

end Deed

/-- The offices that deeds lead to, from one without any tickets. -/
inductive Office.Reached {κ : Type} [EventSink κ] : Office κ → Prop
  | start (sink : κ) (disk : Disk) : Reached ⟨⟨.empty, sink⟩, disk, []⟩
  | next {office : Office κ} (before : Reached office) (deed : Deed) (allowed : deed.Allowed office) :
      Reached (deed.perform office)

/-! ## What deeds keep -/

theorem read_of_load {storage : Storage} {disk after : Disk} {registry : Registry}
    (h : disk.run storage.loadSnapshot = (.ok (some registry), after)) :
    ∃ content, disk.read storage.snapshot = .ok content ∧
      Registry.ofBytes? content = some registry := by
  rw [Disk.run_loadSnapshot] at h
  have hkept : disk.kept storage.snapshot = .ok (some registry) := congrArg Prod.fst h
  unfold Disk.kept at hkept
  split at hkept
  · cases hkept
  · cases hkept
  · rename_i content hsight
    refine ⟨content, Disk.read_ok_iff.2 hsight, ?_⟩
    split at hkept
    · rename_i found hfound
      cases hkept
      exact hfound
    · cases hkept

namespace Office

variable {κ : Type} {office : Office κ} {deed : Deed}

/-- Every registry has its tickets under their own ids, also those that were stored. -/
structure Keyed (office : Office κ) : Prop where
  atDesk : office.desk.registry.Keyed
  stored : ∀ registry ∈ office.stored, registry.Keyed

/-- What is loaded is one of the registries that were stored. -/
theorem stored_of_load {storage : Storage} {registry : Registry} {after : Disk}
    (hallowed : (Deed.load storage).Allowed office)
    (h : office.disk.run storage.loadSnapshot = (.ok (some registry), after)) :
    registry ∈ office.stored := by
  obtain ⟨content, hread, hfound⟩ := read_of_load h
  obtain ⟨found, hstored, hfits, rfl⟩ := hallowed content hread
  rw [Registry.ofBytes?_toBytes hfits] at hfound
  cases hfound
  exact hstored

variable [EventSink κ]

/-- No deed puts a ticket under another id than its own. -/
theorem Keyed.perform (h : office.Keyed) (hallowed : deed.Allowed office) :
    (deed.perform office).Keyed := by
  cases deed with
  | insert ticket => exact ⟨h.atDesk.insert, h.stored⟩
  | delete id => exact ⟨h.atDesk.delete, h.stored⟩
  | extend id now newTimeout lifetime => exact ⟨h.atDesk.extendExpiry, h.stored⟩
  | count id => exact ⟨h.atDesk.incrementAttempt, h.stored⟩
  | operate operation => exact ⟨h.atDesk.performAt operation, h.stored⟩
  | persist storage => exact ⟨h.atDesk, List.forall_mem_cons.2 ⟨h.atDesk, h.stored⟩⟩
  | load storage =>
    -- The only deed that brings a registry from elsewhere: it must be one that was kept so too.
    unfold Deed.perform
    dsimp only
    split
    · rename_i registry disk hload
      exact ⟨h.stored registry (stored_of_load hallowed hload), h.stored⟩
    · exact ⟨h.atDesk, h.stored⟩
  | disturb disk => exact ⟨h.atDesk, h.stored⟩

theorem Reached.keyed (h : office.Reached) : office.Keyed := by
  induction h with
  | start sink disk => exact ⟨Registry.keyed_empty, nofun⟩
  | next before deed allowed ih => exact ih.perform allowed

end Office

/-! ## Inventories -/

/-- A registry that lists its tickets in the order of their ids, each of them once and under its
own id, and to which a ticket is added if its id is new, and not at all otherwise. -/
structure Registry.Orderly (registry : Registry) : Prop where
  rising : registry.tickets.Pairwise fun a b => a.id < b.id
  single : (registry.tickets.map Ticket.id).Nodup
  keyed : registry.entries = registry.tickets.map fun ticket => (ticket.id, ticket)
  found : ∀ id ticket, registry.get? id = some ticket ↔ ticket ∈ registry.tickets ∧ ticket.id = id
  counted : registry.size = registry.tickets.length
  /-- A ticket whose id is taken is refused, and nothing changes. -/
  refuses : ∀ ticket, ticket.id ∈ registry.tickets.map Ticket.id →
    registry.insert ticket = (.error (.store (.alreadyExists ticket.id)), registry)
  /-- A ticket of a new id comes between two others, which stay as they are. -/
  adds : ∀ ticket, ticket.id ∉ registry.tickets.map Ticket.id →
    ∃ after front back, registry.insert ticket = (.ok (), after) ∧
      registry.tickets = front ++ back ∧ after.tickets = front ++ ticket :: back

namespace Registry

variable {registry : Registry}

theorem Keyed.entries_eq (h : registry.Keyed) :
    registry.entries = registry.tickets.map fun ticket => (ticket.id, ticket) := by
  have hsame : registry.entries.map (fun entry => (entry.2.id, entry.2)) = registry.entries.map id := by
    apply List.map_congr_left
    intro entry hentry
    exact Prod.ext (h entry hentry).symm rfl
  rw [List.map_id] at hsame
  rw [tickets, List.map_map]
  exact hsame.symm

theorem Keyed.get?_eq_some_iff (h : registry.Keyed) {id : TicketId} {ticket : Ticket} :
    registry.get? id = some ticket ↔ ticket ∈ registry.tickets ∧ ticket.id = id := by
  rw [← mem_entries_iff, h.entries_eq, List.mem_map]
  constructor
  · rintro ⟨_, hmem, heq⟩
    cases heq
    exact ⟨hmem, rfl⟩
  · rintro ⟨hmem, rfl⟩
    exact ⟨ticket, hmem, rfl⟩

theorem Keyed.mem_ids_iff (h : registry.Keyed) {id : TicketId} :
    id ∈ registry.tickets.map Ticket.id ↔ registry.get? id ≠ none := by
  rw [Option.ne_none_iff_exists', List.mem_map]
  simp only [h.get?_eq_some_iff]

/-- A ticket of a new id comes between two others. -/
theorem tickets_put_of_new {ticket : Ticket} (hnew : registry.get? ticket.id = none) :
    ∃ front back, registry.tickets = front ++ back ∧
      (registry.put ticket.id ticket).tickets = front ++ ticket :: back := by
  obtain ⟨front, back, hentries, hput⟩ := Entries.put_of_new ticket hnew
  refine ⟨front.map (·.2), back.map (·.2), ?_, ?_⟩
  · rw [tickets, hentries, List.map_append]
  · show (Entries.put ticket.id ticket registry.entries).map (·.2) = _
    rw [hput, List.map_append, List.map_cons]

/-- Rising keys and tickets under their own ids make the whole order. -/
theorem Keyed.orderly (h : registry.Keyed) : registry.Orderly := by
  have hrising : registry.tickets.Pairwise fun a b => a.id < b.id := by
    have hentries := registry.ascending
    rw [h.entries_eq, Entries.Ascending, List.pairwise_map] at hentries
    exact hentries
  refine ⟨hrising, ?_, h.entries_eq, fun id ticket => h.get?_eq_some_iff,
    (List.length_map _).symm, ?_, ?_⟩
  · apply List.pairwise_map.2
    apply hrising.imp
    rintro a b hlt heq
    rw [heq] at hlt
    exact FixedBytes.lt_irrefl _ hlt
  · intro ticket htaken
    obtain ⟨found, hget⟩ := Option.ne_none_iff_exists'.1 (h.mem_ids_iff.1 htaken)
    unfold Registry.insert
    rw [hget]
  · intro ticket hnew
    have hnone : registry.get? ticket.id = none := by
      by_contra hsome
      exact hnew (h.mem_ids_iff.2 hsome)
    obtain ⟨front, back, hbefore, hafter⟩ := tickets_put_of_new hnone
    exact ⟨_, front, back, insert_ok_iff.2 ⟨hnone, rfl⟩, hbefore, hafter⟩

end Registry

section Running

variable {κ : Type} [EventSink κ] {office : Office κ}

/-- Whatever happens in an office, its registry stays in order, and wherever it is persisted, the
snapshot lists the same tickets in the same order, each of them under its own id. -/
theorem a_registry_lists_each_ticket_once_under_its_own_id (h : office.Reached) :
    office.desk.registry.Orderly ∧
      ∀ (storage : Storage) (before after : Disk),
        before.run (storage.persist office.desk.registry) = (.ok (), after) →
          after.read storage.snapshot =
            .ok (Entries.toBytes (office.desk.registry.tickets.map fun ticket => (ticket.id, ticket))) := by
  have hkeyed := h.keyed.atDesk
  refine ⟨hkeyed.orderly, fun storage before after hpersist => ?_⟩
  rw [← hkeyed.entries_eq]
  exact read_of_persist hpersist

end Running

/-- A plain ticket with another id. -/
def Ticket.second : Ticket := { Ticket.plain with id := .ones }

/-- An office in which two tickets were made and persisted. -/
def Office.storing : Office EventLog :=
  [Deed.insert .second, .insert .plain, .persist .inData].foldl Deed.perform
    ⟨⟨.empty, .empty⟩, .blank "home", []⟩

/-- The office after one of the tickets was deleted. -/
def Office.cleared : Office EventLog := (Deed.delete .zero).perform .storing

/-- Once they are loaded again, both tickets are listed, in the order of their ids. -/
theorem two_tickets_are_listed_as_they_were_stored :
    Office.cleared.desk.registry.tickets = [.second] ∧
      ((Deed.load .inData).perform Office.cleared).Reached ∧
      ((Deed.load .inData).perform Office.cleared).desk.registry.tickets = [.plain, .second] ∧
      ((Deed.load .inData).perform Office.cleared).desk.registry.Orderly := by
  have hstoring : Office.storing.Reached :=
    (((Office.Reached.start EventLog.empty (.blank "home")).next (.insert .second) trivial).next
      (.insert .plain) trivial).next (.persist .inData) trivial
  have hread : Office.cleared.disk.read Storage.inData.snapshot =
      .ok Office.storing.desk.registry.toBytes := rfl
  have hloaded : ((Deed.load .inData).perform Office.cleared).Reached := by
    apply (hstoring.next (.delete .zero) trivial).next (.load .inData)
    intro content hcontent
    refine ⟨Office.storing.desk.registry, List.mem_cons_self, ⟨by decide, ?_⟩, ?_⟩
    · show ∀ ticket ∈ [Ticket.plain, Ticket.second], ticket.Fits
      simp [Ticket.Fits, Ticket.plain, Ticket.second]
    · exact Except.ok.inj (hcontent.symm.trans hread)
  exact ⟨rfl, hloaded, rfl, (a_registry_lists_each_ticket_once_under_its_own_id hloaded).1⟩

end RetryTickets
