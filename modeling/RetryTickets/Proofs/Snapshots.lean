-- A registry that is written is read back, ticket by ticket, as long as its
-- numbers fit the 64 bits they are written in.
import RetryTickets.Proofs.Records
import RetryTickets.Proofs.Tickets
import RetryTickets.Ticket.Snapshot

namespace RetryTickets

/-- Calldata whose length fits 64 bits, as that of any calldata in a memory does. -/
def Ticket.Fits (ticket : Ticket) : Prop := ticket.calldata.length < 2 ^ 64

/-- Registries with no more tickets and no longer calldata than 64 bits can count. -/
structure Registry.Fits (registry : Registry) : Prop where
  size : registry.size < 2 ^ 64
  tickets : ∀ ticket ∈ registry.tickets, ticket.Fits

/-- Without any calldata, just the tickets have to be counted. -/
theorem Registry.fits_of_no_calldata {registry : Registry} (hsize : registry.size < 2 ^ 64)
    (hnone : ∀ ticket ∈ registry.tickets, ticket.calldata = []) : registry.Fits := by
  refine ⟨hsize, fun ticket hticket => ?_⟩
  unfold Ticket.Fits
  rw [hnone ticket hticket]
  decide

/-! ## Tickets -/

theorem Ticket.read?_append {ticket : Ticket} (h : ticket.Fits) (rest : Bytes) :
    Ticket.read? (ticket.toBytes ++ rest) = some (ticket, rest) := by
  have hlength : ticket.calldata.length < 256 ^ 8 := h
  have hvalue : ticket.value.toNat < 256 ^ 16 := ticket.value.isLt
  unfold Ticket.read? Ticket.toBytes
  simp only [List.append_assoc, FixedBytes.read?_append, Bytes.split?_little, Bytes.split?_append,
    Bytes.word64?_ofWord64, Bytes.ofLittle_little_of_lt hlength, Bytes.ofLittle_little_of_lt hvalue,
    Option.bind_eq_bind, Option.bind_some, Option.pure_def, BitVec.ofNat_toNat, BitVec.setWidth_eq]

namespace Entries

/-! ## Entries -/

theorem read?_written {entries : Entries} (h : ∀ entry ∈ entries, entry.2.Fits) (rest : Bytes) :
    read? entries.length (entries.flatMap entryBytes ++ rest) = some entries := by
  induction entries with
  | nil => rfl
  | cons entry later ih =>
    have hentry := h entry List.mem_cons_self
    have hlater := ih fun e he => h e (List.mem_cons_of_mem entry he)
    simp only [List.length_cons, List.flatMap_cons, read?, entryBytes, List.append_assoc,
      FixedBytes.read?_append, Ticket.read?_append hentry, Option.bind_eq_bind, Option.bind_some]
    rw [hlater]
    rfl

theorem ofBytes?_toBytes {entries : Entries} (hsize : entries.length < 2 ^ 64)
    (h : ∀ entry ∈ entries, entry.2.Fits) : ofBytes? entries.toBytes = some entries := by
  have hlength : entries.length < 256 ^ 8 := hsize
  have hread := read?_written h []
  rw [List.append_nil] at hread
  unfold ofBytes? toBytes
  rw [Bytes.split?_little]
  simp only [Option.bind_eq_bind, Option.bind_some, Bytes.ofLittle_little_of_lt hlength]
  exact hread

/-- A key above all others comes last. -/
theorem put_last {key : TicketId} {ticket : Ticket} {entries : Entries}
    (h : ∀ entry ∈ entries, entry.1 < key) :
    put key ticket entries = entries ++ [(key, ticket)] := by
  induction entries with
  | nil => rfl
  | cons entry later ih =>
    have habove := h entry List.mem_cons_self
    have hne : key ≠ entry.1 := by
      rintro rfl
      exact FixedBytes.lt_irrefl _ habove
    unfold put
    rw [if_neg (FixedBytes.lt_asymm habove), if_neg hne,
      ih fun e he => h e (List.mem_cons_of_mem entry he)]
    rfl

end Entries

/-! ## Registries -/

namespace Registry

/-- Putting rising entries into a registry below them puts them behind its own. -/
theorem foldl_put_entries {registry : Registry} {entries : Entries}
    (h : (registry.entries ++ entries).Ascending) :
    (entries.foldl (fun registry entry => registry.put entry.1 entry.2) registry).entries =
      registry.entries ++ entries := by
  induction entries generalizing registry with
  | nil => simp
  | cons entry later ih =>
    have hbelow : ∀ e ∈ registry.entries, e.1 < entry.1 := fun e he =>
      (List.pairwise_append.1 h).2.2 e he entry List.mem_cons_self
    have hput : (registry.put entry.1 entry.2).entries = registry.entries ++ [entry] :=
      Entries.put_last hbelow
    have hall : registry.entries ++ entry :: later = registry.entries ++ [entry] ++ later := by simp
    rw [List.foldl_cons, hall, ← hput]
    apply ih
    rw [hput, ← hall]
    exact h

theorem ofEntries_entries (registry : Registry) : ofEntries registry.entries = registry := by
  apply ext_entries
  have hrising : (empty.entries ++ registry.entries).Ascending := registry.ascending
  exact foldl_put_entries hrising

/-- A registry that is written is read back. -/
theorem ofBytes?_toBytes {registry : Registry} (h : registry.Fits) :
    ofBytes? registry.toBytes = some registry := by
  have hentries : ∀ entry ∈ registry.entries, entry.2.Fits := fun entry hentry =>
    h.tickets entry.2 (List.mem_map_of_mem hentry)
  unfold ofBytes? toBytes
  rw [Entries.ofBytes?_toBytes h.size hentries]
  exact congrArg some (ofEntries_entries registry)

end Registry

end RetryTickets
