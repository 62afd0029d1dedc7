-- The tickets kept in memory, in the order of their keys.
import RetryTickets.Ticket.Store

namespace RetryTickets

/-- Tickets under their keys. -/
abbrev Entries := List (TicketId × Ticket)

namespace Entries

/-- Keys rise strictly. -/
def Ascending (entries : Entries) : Prop := entries.Pairwise fun a b => a.1 < b.1

/-- Puts a ticket under a key, in the place of the one that was there. -/
def put (key : TicketId) (ticket : Ticket) : Entries → Entries
  | [] => [(key, ticket)]
  | entry :: rest =>
    if key < entry.1 then (key, ticket) :: entry :: rest
    else if key = entry.1 then (key, ticket) :: rest
    else entry :: put key ticket rest

/-- Takes away what is under a key. -/
def erase (key : TicketId) (entries : Entries) : Entries := entries.filter fun e => e.1 ≠ key

theorem mem_put {key : TicketId} {ticket : Ticket} {entries : Entries} {e : TicketId × Ticket}
    (h : e ∈ put key ticket entries) : e = (key, ticket) ∨ e ∈ entries := by
  induction entries with
  | nil => simpa [put] using h
  | cons entry rest ih =>
    simp only [put] at h
    split at h
    · simpa using h
    · split at h
      · simp only [List.mem_cons] at h ⊢
        rcases h with h | h
        · exact Or.inl h
        · exact Or.inr (Or.inr h)
      · simp only [List.mem_cons] at h ⊢
        rcases h with h | h
        · exact Or.inr (Or.inl h)
        · exact (ih h).imp id Or.inr

theorem ascending_put {key : TicketId} {ticket : Ticket} {entries : Entries}
    (h : Ascending entries) : Ascending (put key ticket entries) := by
  induction entries with
  | nil => simp [put, Ascending]
  | cons entry rest ih =>
    have hrest : Ascending rest := (List.pairwise_cons.1 h).2
    have hfirst : ∀ e ∈ rest, entry.1 < e.1 := (List.pairwise_cons.1 h).1
    simp only [put]
    split
    · rename_i hlt
      refine List.pairwise_cons.2 ⟨fun e he => ?_, h⟩
      rcases List.mem_cons.1 he with rfl | he
      · exact hlt
      · exact FixedBytes.lt_trans hlt (hfirst e he)
    · rename_i hnlt
      split
      · rename_i heq
        refine List.pairwise_cons.2 ⟨fun e he => ?_, hrest⟩
        have := hfirst e he
        simpa [heq] using this
      · rename_i hne
        refine List.pairwise_cons.2 ⟨fun e he => ?_, ih hrest⟩
        rcases mem_put he with rfl | he
        · exact FixedBytes.lt_of_not_lt_of_ne hnlt (fun h => hne h.symm)
        · exact hfirst e he

theorem ascending_erase {key : TicketId} {entries : Entries} (h : Ascending entries) :
    Ascending (erase key entries) :=
  List.Pairwise.filter _ h

theorem lookup_cons (k : TicketId) (entry : TicketId × Ticket) (rest : Entries) :
    List.lookup k (entry :: rest) = if k = entry.1 then some entry.2 else rest.lookup k := by
  rw [List.lookup_cons]
  by_cases h : k = entry.1
  · simp [h]
  · have hb : (k == entry.1) = false := beq_false_of_ne h
    simp [h, hb]

theorem lookup_put (key k : TicketId) (ticket : Ticket) (entries : Entries) :
    (put key ticket entries).lookup k = if k = key then some ticket else entries.lookup k := by
  induction entries with
  | nil => simp [put, lookup_cons]
  | cons entry rest ih =>
    simp only [put]
    split
    · simp [lookup_cons]
    · split
      · rename_i heq
        by_cases h : k = entry.1 <;> simp [lookup_cons, h, heq]
      · rename_i hne
        by_cases h : k = entry.1
        · have hk : ¬ entry.1 = key := fun e => hne e.symm
          simp [lookup_cons, h, hk]
        · simp [lookup_cons, h, ih]

theorem lookup_erase (key k : TicketId) (entries : Entries) :
    (erase key entries).lookup k = if k = key then none else entries.lookup k := by
  induction entries with
  | nil => simp [erase]
  | cons entry rest ih =>
    by_cases he : entry.1 = key
    · have hdrop : erase key (entry :: rest) = erase key rest := by simp [erase, he]
      rw [hdrop, ih, lookup_cons, he]
      by_cases h : k = key <;> simp [h]
    · have hkeep : erase key (entry :: rest) = entry :: erase key rest := by simp [erase, he]
      rw [hkeep, lookup_cons, lookup_cons, ih]
      by_cases h : k = entry.1 <;> simp [h, he]

end Entries

/-- Tickets under strictly rising keys. -/
structure Registry where
  entries : Entries
  ascending : entries.Ascending

namespace Registry

/-- No tickets. -/
def empty : Registry := ⟨[], List.Pairwise.nil⟩

instance : Inhabited Registry := ⟨empty⟩

/-- The ticket under a key. -/
def get? (registry : Registry) (key : TicketId) : Option Ticket := registry.entries.lookup key

/-- The ticket under a key, if it lives. -/
def live? (registry : Registry) (key : TicketId) (now : UInt64) : Option Ticket :=
  (registry.get? key).filter (·.isLive now)

/-- How many tickets there are. -/
def size (registry : Registry) : Nat := registry.entries.length

/-- Whether there are none. -/
def isEmpty (registry : Registry) : Bool := registry.entries.isEmpty

/-- The tickets in the order of their keys. -/
def tickets (registry : Registry) : List Ticket := registry.entries.map (·.2)

/-- Puts a ticket under a key, in the place of the one that was there. -/
def put (key : TicketId) (ticket : Ticket) (registry : Registry) : Registry :=
  ⟨registry.entries.put key ticket, Entries.ascending_put registry.ascending⟩

/-- Takes away what is under a key. -/
def erase (key : TicketId) (registry : Registry) : Registry :=
  ⟨registry.entries.erase key, Entries.ascending_erase registry.ascending⟩

@[simp] theorem get?_put (registry : Registry) (key k : TicketId) (ticket : Ticket) :
    (registry.put key ticket).get? k = if k = key then some ticket else registry.get? k :=
  Entries.lookup_put key k ticket registry.entries

@[simp] theorem get?_erase (registry : Registry) (key k : TicketId) :
    (registry.erase key).get? k = if k = key then none else registry.get? k :=
  Entries.lookup_erase key k registry.entries

/-- Adds a new ticket under its own id. -/
def insert (ticket : Ticket) (registry : Registry) : Except Error Unit × Registry :=
  match registry.get? ticket.id with
  | some _ => (.error (.store (.alreadyExists ticket.id)), registry)
  | none => (.ok (), registry.put ticket.id ticket)

/-- The ticket under a key, which must be there. -/
def existing (registry : Registry) (key : TicketId) : Except Error Ticket :=
  match registry.get? key with
  | some ticket => .ok ticket
  | none => .error .notFound

/-- Removes a ticket; nothing is refunded. -/
def delete (key : TicketId) (registry : Registry) : Except Error UInt64 × Registry :=
  match registry.get? key with
  | some _ => (.ok 0, registry.erase key)
  | none => (.error .notFound, registry)

/-- Moves the end of a live ticket. The window is checked first, then the ticket, then
whether the new end lies within the window. -/
def extendExpiry (key : TicketId) (now newTimeout lifetime : UInt64) (registry : Registry) :
    Except Error Unit × Registry :=
  match Gas.plus? now lifetime with
  | none => (.error (.store .limitOverflow), registry)
  | some latest =>
    match registry.live? key now with
    | none => (.error .notFound, registry)
    | some ticket =>
      if latest < newTimeout then (.error (.store .tooFar), registry)
      else (.ok (), registry.put key { ticket with timeout := newTimeout })

/-- Counts an attempt, also of a dead ticket. -/
def incrementAttempt (key : TicketId) (registry : Registry) : Except Error UInt64 × Registry :=
  match registry.get? key with
  | none => (.error .notFound, registry)
  | some ticket =>
    match ticket.nextAttempt? with
    | none => (.error (.store (.attemptOverflow key)), registry)
    | some next => (.ok next.attempts, registry.put key next)

instance : TicketStore Registry where
  openTicket registry key now := .ok (registry.live? key now)
  sizeBytes registry key now := .ok (((registry.live? key now).map Ticket.sizeBytes).getD 0)
  beneficiary registry key := (registry.existing key).map Ticket.beneficiary
  timeout registry key := (registry.existing key).map Ticket.timeout
  delete := delete
  extendExpiry := extendExpiry
  incrementAttempt := incrementAttempt

end Registry

end RetryTickets
