-- The registry as a place for tickets: when each of its operations goes
-- through, and what it leaves behind then.
import Mathlib.Algebra.Group.Nat.Defs
import RetryTickets.Ticket.Registry

namespace RetryTickets

/-- A ticket without any data, that times out at 100. -/
def Ticket.plain : Ticket := ⟨.zero, .zero, .zero, 0, .zero, [], 100, 0⟩

theorem Ticket.isLive_iff {now : UInt64} {ticket : Ticket} :
    ticket.isLive now = true ↔ now < ticket.timeout := by
  simp [Ticket.isLive]

theorem Gas.plus?_eq_some_iff {a b c : UInt64} :
    Gas.plus? a b = some c ↔ a.toNat + b.toNat < 2 ^ 64 ∧ c = a + b := by
  have hlimit : Gas.limit.toNat = 2 ^ 64 - 1 := by decide
  unfold Gas.plus?
  rw [hlimit]
  by_cases h : a.toNat + b.toNat < 2 ^ 64
  · rw [if_pos (by omega), Option.some.injEq]
    exact ⟨fun hc => ⟨h, hc.symm⟩, fun hc => hc.2.symm⟩
  · rw [if_neg (by omega)]
    exact iff_of_false (fun hc => nomatch hc) fun hc => h hc.1

/-- One attempt more is counted by one, and changes nothing else. -/
theorem Ticket.nextAttempt?_eq_some_iff {ticket next : Ticket} :
    ticket.nextAttempt? = some next ↔
      ticket.attempts.toNat + 1 < 2 ^ 64 ∧ next = { ticket with attempts := ticket.attempts + 1 } := by
  have hone : (1 : UInt64).toNat = 1 := by decide
  unfold Ticket.nextAttempt?
  rw [Option.map_eq_some_iff]
  simp only [Gas.plus?_eq_some_iff, hone]
  constructor
  · rintro ⟨attempts, ⟨hlimit, rfl⟩, rfl⟩
    exact ⟨hlimit, rfl⟩
  · rintro ⟨hlimit, rfl⟩
    exact ⟨_, ⟨hlimit, rfl⟩, rfl⟩

theorem Ticket.attempts_of_nextAttempt? {ticket next : Ticket} (h : ticket.nextAttempt? = some next) :
    next.attempts.toNat = ticket.attempts.toNat + 1 := by
  obtain ⟨hroom, rfl⟩ := Ticket.nextAttempt?_eq_some_iff.1 h
  rw [UInt64.toNat_add]
  exact Nat.mod_eq_of_lt hroom

namespace Entries

theorem length_le_put (key : TicketId) (ticket : Ticket) (entries : Entries) :
    entries.length ≤ (put key ticket entries).length := by
  induction entries with
  | nil => exact Nat.zero_le _
  | cons entry rest ih =>
    unfold put
    split
    · exact Nat.le_succ _
    · split
      · exact Nat.le_refl _
      · exact Nat.succ_le_succ ih

theorem length_put_of_new {key : TicketId} (ticket : Ticket) {entries : Entries}
    (h : entries.lookup key = none) : (put key ticket entries).length = entries.length + 1 := by
  induction entries with
  | nil => rfl
  | cons entry rest ih =>
    rw [lookup_cons] at h
    have hne : key ≠ entry.1 := by
      intro heq
      rw [if_pos heq] at h
      cases h
    rw [if_neg hne] at h
    unfold put
    rw [if_neg hne]
    split
    · rfl
    · exact congrArg Nat.succ (ih h)

/-- Below all keys nothing is found. -/
theorem lookup_below {key : TicketId} {entries : Entries} (h : ∀ entry ∈ entries, key < entry.1) :
    entries.lookup key = none := by
  induction entries with
  | nil => rfl
  | cons entry rest ih =>
    obtain ⟨hfirst, hrest⟩ := List.forall_mem_cons.1 h
    have hne : key ≠ entry.1 := by
      rintro rfl
      exact FixedBytes.lt_irrefl _ hfirst
    rw [lookup_cons, if_neg hne]
    exact ih hrest

/-- What the first key finds is not found where all keys are above it. -/
theorem not_below_of_lookup {entry : TicketId × Ticket} {rest others : Entries}
    (h : (entry :: rest).lookup entry.1 = others.lookup entry.1) :
    ¬ ∀ other ∈ others, entry.1 < other.1 := by
  intro hbelow
  rw [lookup_below hbelow, lookup_cons, if_pos rfl] at h
  cases h

/-- Rising entries are known by what is found under their keys. -/
theorem ext_lookup {a b : Entries} (ha : a.Ascending) (hb : b.Ascending)
    (h : ∀ key, a.lookup key = b.lookup key) : a = b := by
  induction a generalizing b with
  | nil =>
    cases b with
    | nil => rfl
    | cons other others => exact absurd nofun (not_below_of_lookup (h other.1).symm)
  | cons entry rest ih =>
    cases b with
    | nil => exact absurd nofun (not_below_of_lookup (h entry.1))
    | cons other others =>
      obtain ⟨hfirst, hrest⟩ := List.pairwise_cons.1 ha
      obtain ⟨hfirst', hrest'⟩ := List.pairwise_cons.1 hb
      -- Neither first key is below the other one, or it would be found on one side only.
      have hnot : ¬ entry.1 < other.1 := fun hlt => not_below_of_lookup (h entry.1)
        (List.forall_mem_cons.2 ⟨hlt, fun e he => FixedBytes.lt_trans hlt (hfirst' e he)⟩)
      have hnot' : ¬ other.1 < entry.1 := fun hlt => not_below_of_lookup (h other.1).symm
        (List.forall_mem_cons.2 ⟨hlt, fun e he => FixedBytes.lt_trans hlt (hfirst e he)⟩)
      have hkey : entry.1 = other.1 :=
        Decidable.byContradiction fun hne => hnot (FixedBytes.lt_of_not_lt_of_ne hnot' hne)
      have hticket : entry.2 = other.2 := by
        have hfound := h entry.1
        rw [lookup_cons, lookup_cons, if_pos rfl, if_pos hkey] at hfound
        exact Option.some.inj hfound
      have hlater : ∀ key, rest.lookup key = others.lookup key := by
        intro key
        by_cases heq : key = entry.1
        · rw [heq, lookup_below hfirst, lookup_below (hkey ▸ hfirst')]
        · have hfound := h key
          rwa [lookup_cons, lookup_cons, if_neg heq, if_neg (hkey ▸ heq)] at hfound
      rw [Prod.ext hkey hticket, ih hrest hrest' hlater]

end Entries

namespace Registry

variable {registry after : Registry} {key : TicketId} {now : UInt64}

theorem live?_eq_some_iff {ticket : Ticket} :
    registry.live? key now = some ticket ↔
      registry.get? key = some ticket ∧ now < ticket.timeout := by
  simp [live?, Option.filter_eq_some_iff, Ticket.isLive_iff]

/-! ## What makes a registry -/

theorem ext_entries {a b : Registry} (h : a.entries = b.entries) : a = b := by
  cases a
  cases b
  simp_all

/-- A registry is known by the tickets under its keys. -/
theorem ext_get? {a b : Registry} (h : ∀ key, a.get? key = b.get? key) : a = b :=
  ext_entries (Entries.ext_lookup a.ascending b.ascending h)

theorem size_le_put (key : TicketId) (ticket : Ticket) (registry : Registry) :
    registry.size ≤ (registry.put key ticket).size :=
  Entries.length_le_put key ticket registry.entries

theorem size_put_of_new (ticket : Ticket) (h : registry.get? key = none) :
    (registry.put key ticket).size = registry.size + 1 :=
  Entries.length_put_of_new ticket h

/-! ## Questions -/

theorem openTicket_eq_some_iff {ticket : Ticket} :
    TicketStore.openTicket registry key now = .ok (some ticket) ↔
      registry.live? key now = some ticket := by
  simp [TicketStore.openTicket]

theorem beneficiary_ok_iff {beneficiary : Address} :
    TicketStore.beneficiary registry key = .ok beneficiary ↔
      ∃ ticket, registry.get? key = some ticket ∧ ticket.beneficiary = beneficiary := by
  simp only [TicketStore.beneficiary, existing]
  cases registry.get? key <;> simp [Except.map]

theorem timeout_ok_iff {timeout : UInt64} :
    TicketStore.timeout registry key = .ok timeout ↔
      ∃ ticket, registry.get? key = some ticket ∧ ticket.timeout = timeout := by
  simp only [TicketStore.timeout, existing]
  cases registry.get? key <;> simp [Except.map]

/-! ## Changes -/

theorem insert_ok_iff {ticket : Ticket} :
    registry.insert ticket = (.ok (), after) ↔
      registry.get? ticket.id = none ∧ after = registry.put ticket.id ticket := by
  unfold insert
  cases registry.get? ticket.id <;> simp [eq_comm]

theorem delete_ok_iff {refund : UInt64} :
    TicketStore.delete key registry = (.ok refund, after) ↔
      refund = 0 ∧ (∃ ticket, registry.get? key = some ticket) ∧ after = registry.erase key := by
  simp only [TicketStore.delete, delete]
  cases registry.get? key <;> simp [eq_comm]

theorem extendExpiry_ok_iff {newTimeout lifetime : UInt64} :
    TicketStore.extendExpiry key now newTimeout lifetime registry = (.ok (), after) ↔
      ∃ latest ticket, Gas.plus? now lifetime = some latest ∧ registry.live? key now = some ticket ∧
        newTimeout ≤ latest ∧ after = registry.put key { ticket with timeout := newTimeout } := by
  simp only [TicketStore.extendExpiry, extendExpiry]
  cases Gas.plus? now lifetime with
  | none => simp
  | some latest =>
    cases registry.live? key now with
    | none => simp
    | some ticket =>
      by_cases h : latest < newTimeout
      · simp [h, UInt64.not_le.2 h]
      · simp [h, UInt64.not_lt.1 h, eq_comm]

theorem incrementAttempt_ok_iff {sequence : UInt64} :
    TicketStore.incrementAttempt key registry = (.ok sequence, after) ↔
      ∃ ticket next, registry.get? key = some ticket ∧ ticket.nextAttempt? = some next ∧
        sequence = next.attempts ∧ after = registry.put key next := by
  simp only [TicketStore.incrementAttempt, incrementAttempt]
  cases registry.get? key with
  | none => simp
  | some ticket =>
    cases h : ticket.nextAttempt? with
    | none => simp [h]
    | some next => simp [h, eq_comm]

end Registry

end RetryTickets
