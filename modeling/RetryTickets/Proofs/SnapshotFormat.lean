-- What bytes are a snapshot. A number and as many entries, of which the last one
-- counts for each key, and whatever follows them: all this is read, and nothing
-- else is. No part of a snapshot that ends too early is read as another one.
import Mathlib.Data.List.Induction
import RetryTickets.Proofs.LogFormat
import RetryTickets.Proofs.Writes

namespace RetryTickets

/-- A ticket is read from its written form and from nothing else. -/
theorem Ticket.read?_eq_some_iff {b rest : Bytes} {ticket : Ticket} :
    Ticket.read? b = some (ticket, rest) ↔ ticket.Fits ∧ b = ticket.toBytes ++ rest := by
  constructor
  · intro h
    simp only [Ticket.read?, Option.bind_eq_bind, Option.bind_eq_some_iff, Prod.exists,
      FixedBytes.read?_eq_some_iff, Bytes.word64?_eq_some_iff, Option.pure_def, Option.some.injEq,
      Prod.mk.injEq] at h
    obtain ⟨id, _, rfl, sender, _, rfl, target, _, rfl, _, _, hvalue, beneficiary, _, rfl, _, _, hlength,
      calldata, _, hcalldata, timeout, _, rfl, attempts, _, rfl, rfl, rfl⟩ := h
    obtain ⟨value, hfits, rfl, rfl⟩ := Bytes.split?_eq_some_iff_little.1 hvalue
    obtain ⟨length, hcount, rfl, rfl⟩ := Bytes.split?_eq_some_iff_little.1 hlength
    obtain ⟨hsize, rfl⟩ := Bytes.split?_eq_some_iff.1 hcalldata
    rw [Bytes.ofLittle_little_of_lt hcount] at hsize
    have hnumber : (BitVec.ofNat 128 value).toNat = value := Nat.mod_eq_of_lt hfits
    refine ⟨?_, ?_⟩
    · rw [Ticket.Fits, hsize]
      exact hcount
    · simp only [Ticket.toBytes, Bytes.ofLittle_little_of_lt hfits, hnumber, hsize, List.append_assoc]
  · rintro ⟨hfits, rfl⟩
    exact Ticket.read?_append hfits rest

namespace Entries

/-! ## Entries -/

/-- Entries with no more to them than 64 bits can count. -/
structure Fits (entries : Entries) : Prop where
  size : entries.length < 2 ^ 64
  tickets : ∀ entry ∈ entries, entry.2.Fits

/-- The ticket of the last entry with a key. -/
def last? (key : TicketId) (entries : Entries) : Option Ticket :=
  ((entries.filter fun entry => entry.1 = key).getLast?).map (·.2)

variable {entries later : Entries} {b rest more : Bytes}

theorem read?_eq_some_iff {count : Nat} :
    read? count b = some entries ↔ entries.length = count ∧ (∀ entry ∈ entries, entry.2.Fits) ∧
      ∃ rest, b = entries.flatMap entryBytes ++ rest := by
  constructor
  · intro h
    induction count generalizing b entries with
    | zero =>
      cases h
      exact ⟨rfl, nofun, b, rfl⟩
    | succ count ih =>
      simp only [read?, Option.bind_eq_bind, Option.bind_eq_some_iff, Prod.exists,
        FixedBytes.read?_eq_some_iff, Ticket.read?_eq_some_iff, Option.pure_def, Option.some.injEq] at h
      obtain ⟨key, _, rfl, ticket, _, ⟨hticket, rfl⟩, later, hlater, rfl⟩ := h
      obtain ⟨rfl, hfits, rest, rfl⟩ := ih hlater
      refine ⟨rfl, List.forall_mem_cons.2 ⟨hticket, hfits⟩, rest, ?_⟩
      simp only [List.flatMap_cons, entryBytes, List.append_assoc]
  · rintro ⟨rfl, hfits, rest, rfl⟩
    exact read?_written hfits rest

/-- Entries are read from their written form, whatever follows it, and from nothing else. -/
theorem ofBytes?_eq_some_iff :
    ofBytes? b = some entries ↔ entries.Fits ∧ ∃ rest, b = entries.toBytes ++ rest := by
  simp only [ofBytes?, Option.bind_eq_bind, Option.bind_eq_some_iff, Prod.exists,
    Bytes.split?_eq_some_iff_little, read?_eq_some_iff, toBytes]
  constructor
  · rintro ⟨_, _, ⟨count, hcount, rfl, rfl⟩, hlength, hfits, rest, rfl⟩
    rw [Bytes.ofLittle_little_of_lt hcount] at hlength
    rw [← hlength] at hcount ⊢
    exact ⟨⟨hcount, hfits⟩, rest, (List.append_assoc _ _ _).symm⟩
  · rintro ⟨hfits, rest, rfl⟩
    refine ⟨_, _, ⟨entries.length, hfits.size, rfl, List.append_assoc _ _ _⟩, ?_, hfits.tickets, rest, rfl⟩
    exact (Bytes.ofLittle_little_of_lt hfits.size).symm

/-- No written form begins with another one. -/
theorem toBytes_append_inj (hfits : entries.Fits) (hlater : later.Fits)
    (h : entries.toBytes ++ rest = later.toBytes ++ more) : entries = later ∧ rest = more := by
  have hread := ofBytes?_eq_some_iff.2 ⟨hfits, rest, rfl⟩
  rw [h, ofBytes?_eq_some_iff.2 ⟨hlater, more, rfl⟩] at hread
  cases hread
  exact ⟨rfl, List.append_cancel_left h⟩

/-- Nothing is read from a written form that ends too early. -/
theorem ofBytes?_of_cut (hfits : entries.Fits) (hcut : b ++ more = entries.toBytes) (hmore : more ≠ []) :
    ofBytes? b = none := by
  cases hread : ofBytes? b with
  | none => rfl
  | some found =>
    obtain ⟨hfound, rest, rfl⟩ := ofBytes?_eq_some_iff.1 hread
    rw [List.append_assoc, ← List.append_nil entries.toBytes] at hcut
    obtain ⟨_, hnone⟩ := toBytes_append_inj hfound hfits hcut
    exact absurd (List.append_eq_nil_iff.1 hnone).2 hmore

theorem last?_append_singleton (entries : Entries) (entry : TicketId × Ticket) (key : TicketId) :
    last? key (entries ++ [entry]) = if key = entry.1 then some entry.2 else last? key entries := by
  unfold last?
  rw [List.filter_append]
  by_cases h : entry.1 = key
  · simp [h]
  · simp [h, Ne.symm h]

theorem length_put_le (key : TicketId) (ticket : Ticket) (entries : Entries) :
    (put key ticket entries).length ≤ entries.length + 1 := by
  induction entries with
  | nil => exact Nat.le_refl _
  | cons entry rest ih =>
    unfold put
    split
    · exact Nat.le_refl _
    · split
      · exact Nat.le_succ _
      · exact Nat.succ_le_succ ih

end Entries

namespace Registry

/-! ## Registries -/

variable {entries : Entries} {registry : Registry} {b : Bytes}

theorem ofEntries_append_singleton (entries : Entries) (entry : TicketId × Ticket) :
    ofEntries (entries ++ [entry]) = (ofEntries entries).put entry.1 entry.2 := by
  unfold ofEntries
  rw [List.foldl_append]
  rfl

/-- Under each key is the ticket of its last entry. -/
theorem get?_ofEntries (entries : Entries) (key : TicketId) :
    (ofEntries entries).get? key = entries.last? key := by
  induction entries using List.reverseRecOn with
  | nil => rfl
  | append_singleton entries entry ih =>
    rw [ofEntries_append_singleton, get?_put, Entries.last?_append_singleton, ih]

theorem eq_ofEntries_iff : registry = ofEntries entries ↔ ∀ key, registry.get? key = entries.last? key := by
  constructor
  · rintro rfl key
    exact get?_ofEntries entries key
  · intro h
    exact ext_get? fun key => (h key).trans (get?_ofEntries entries key).symm

/-- What is put into a registry is of its entries, and no more than they are. -/
theorem fits_ofEntries (h : entries.Fits) : (ofEntries entries).Fits := by
  have hall : (ofEntries entries).size ≤ entries.length ∧ (ofEntries entries).entries ⊆ entries := by
    clear h
    induction entries using List.reverseRecOn with
    | nil => exact ⟨Nat.le_refl _, List.Subset.refl _⟩
    | append_singleton entries entry ih =>
      rw [ofEntries_append_singleton, List.length_append]
      refine ⟨(Entries.length_put_le _ _ _).trans (Nat.succ_le_succ ih.1), fun e he => ?_⟩
      rcases Entries.mem_put he with rfl | he
      · exact List.mem_append_right _ (List.mem_singleton.2 rfl)
      · exact List.mem_append_left _ (ih.2 he)
  refine ⟨Nat.lt_of_le_of_lt hall.1 h.size, fun ticket hticket => ?_⟩
  obtain ⟨entry, hentry, rfl⟩ := List.mem_map.1 hticket
  exact h.tickets entry (hall.2 hentry)

theorem entries_fits (h : registry.Fits) : registry.entries.Fits :=
  ⟨h.size, fun entry hentry => h.tickets entry.2 (List.mem_map_of_mem hentry)⟩

/-- A registry that stands in some bytes: at their front are entries, of which the last one counts
for each key. -/
def StandsIn (registry : Registry) (b : Bytes) : Prop :=
  ∃ (entries : Entries) (rest : Bytes), b = entries.toBytes ++ rest ∧ entries.Fits ∧
    ∀ key, registry.get? key = entries.last? key

theorem ofBytes?_eq_some_iff : ofBytes? b = some registry ↔ registry.StandsIn b := by
  unfold ofBytes?
  rw [Option.map_eq_some_iff]
  simp only [Entries.ofBytes?_eq_some_iff, StandsIn, ← eq_ofEntries_iff]
  constructor
  · rintro ⟨entries, ⟨hfits, rest, hb⟩, rfl⟩
    exact ⟨entries, rest, hb, hfits, rfl⟩
  · rintro ⟨entries, rest, hb, hfits, rfl⟩
    exact ⟨entries, ⟨hfits, rest, hb⟩, rfl⟩

theorem StandsIn.fits (h : registry.StandsIn b) : registry.Fits := by
  obtain ⟨entries, rest, _, hfits, hlast⟩ := h
  rw [eq_ofEntries_iff.2 hlast]
  exact fits_ofEntries hfits

end Registry

/-! ## The snapshot on files -/

section Reading

variable {storage : Storage} {disk after : Disk} {content : Bytes} {registry : Registry}

theorem loadSnapshot_of_read (h : disk.read storage.snapshot = .ok content) :
    disk.run storage.loadSnapshot =
      ((Registry.ofBytes? content).elim (.error (.state (.badSnapshot .endOfData))) (.ok ∘ some), disk) := by
  rw [Disk.run_loadSnapshot, Disk.kept, Disk.read_ok_iff.1 h]
  dsimp only
  cases Registry.ofBytes? content <;> rfl

/-- Wherever a registry was persisted, the snapshot is its written form. -/
theorem read_of_persist (h : disk.run (storage.persist registry) = (.ok (), after)) :
    after.read storage.snapshot = .ok registry.toBytes := by
  obtain ⟨_, made, _, hwriting⟩ := Disk.run_bind_ok_iff.1 h
  obtain ⟨_, written, hwritten, hrenaming⟩ := Disk.run_bind_ok_iff.1 hwriting
  obtain ⟨_, renamed, hrenamed, hopening⟩ := Disk.run_bind_ok_iff.1 hrenaming
  -- Opening the directory around the snapshot changes nothing.
  have hsame : after = renamed := by
    split at hopening
    · rw [Disk.run_attempt_touch] at hopening
      exact (congrArg Prod.snd hopening).symm
    · cases hopening
      rfl
  obtain ⟨place, name, before, hwritable, rfl⟩ :=
    Disk.write_ok_iff.1 (Disk.run_attempt_change_ok_iff.1 hwritten)
  obtain ⟨newPlace, newName, hsnapshot, hfound⟩ :=
    Disk.rename_ok (Disk.run_attempt_change_ok_iff.1 hrenamed)
  obtain ⟨content, htemporary, _, hread⟩ := hfound (Disk.spot_temporary_ne hsnapshot)
  rw [Disk.read_ok_iff, Disk.sight_written hwritable] at htemporary
  cases htemporary
  rw [hsame]
  exact hread

/-- The snapshot is refused: it ends too early. -/
def Storage.EndsEarly (storage : Storage) (disk : Disk) : Prop :=
  ∃ fault : StateFault, disk.run storage.loadSnapshot = (.error (.state fault), disk) ∧
    fault.message = "Failed to deserialize store: io error: unexpected end of file"

theorem endsEarly_of_none (h : disk.read storage.snapshot = .ok content)
    (hnone : Registry.ofBytes? content = none) : storage.EndsEarly disk := by
  refine ⟨.badSnapshot .endOfData, ?_, rfl⟩
  rw [loadSnapshot_of_read h, hnone]
  rfl

/-- Whatever bytes the snapshot has, they are read as the registry that stands in them, and refused
if there is none, as is every snapshot that was cut short. What was read is written in the order of
its keys, wherever that can be written at all, and is then read and written again as it is. -/
theorem a_snapshot_is_read_as_what_stands_in_it_or_refused
    (h : disk.read storage.snapshot = .ok content) :
    (∀ registry, disk.run storage.loadSnapshot = (.ok (some registry), disk) ↔
        registry.StandsIn content) ∧
      ((∀ registry, ¬ Registry.StandsIn registry content) → storage.EndsEarly disk) ∧
      (∀ registry : Registry, registry.Fits → content <+: registry.toBytes →
        content ≠ registry.toBytes → storage.EndsEarly disk) ∧
      (∀ registry, disk.run storage.loadSnapshot = (.ok (some registry), disk) →
        (∀ before after : Disk, before.run (storage.persist registry) = (.ok (), after) →
          registry.entries.Ascending ∧ after.read storage.snapshot = .ok registry.entries.toBytes ∧
            after.run storage.loadSnapshot = (.ok (some registry), after)) ∧
        ∀ (before : Disk) files, storage.Ready before files → ∃ after files',
          before.run (storage.persist registry) = (.ok (), after) ∧ storage.Ready after files') := by
  have hreads (registry : Registry) : disk.run storage.loadSnapshot = (.ok (some registry), disk) ↔
      registry.StandsIn content := by
    rw [loadSnapshot_of_read h, ← Registry.ofBytes?_eq_some_iff]
    cases Registry.ofBytes? content <;> simp
  refine ⟨hreads, fun hnone => ?_, fun registry hfits hbegins hcut => ?_,
    fun registry hregistry => ⟨fun before after hpersist => ?_, fun before files hready => ?_⟩⟩
  · refine endsEarly_of_none h (Option.eq_none_iff_forall_ne_some.2 fun registry hsome => ?_)
    exact hnone registry (Registry.ofBytes?_eq_some_iff.1 hsome)
  · obtain ⟨more, hmore⟩ := hbegins
    have hrest : more ≠ [] := by
      rintro rfl
      exact hcut (List.append_nil content ▸ hmore)
    refine endsEarly_of_none h ?_
    rw [Registry.ofBytes?, Entries.ofBytes?_of_cut (Registry.entries_fits hfits) hmore hrest]
    rfl
  · have hfits := ((hreads registry).1 hregistry).fits
    have hread := read_of_persist hpersist
    refine ⟨registry.ascending, hread, ?_⟩
    rw [loadSnapshot_of_read hread, Registry.ofBytes?_toBytes hfits]
    rfl
  · obtain ⟨after, hpersist, hafter⟩ := hready.run_persist registry
    exact ⟨after, _, hpersist, hafter⟩

end Reading

/-- A disk with nothing on it but a snapshot in the data directory. -/
def Disk.ofSnapshot (content : Bytes) : Disk :=
  ⟨[("home", .folder [("data", .folder [("tickets.bin", .file content)])])], ["home"]⟩

/-- Entries in no order, two of them with the same key. -/
def Entries.shuffled : Entries :=
  [(.ones, .plain), (.zero, .plain), (.ones, { Ticket.plain with timeout := 7 })]

/-- What is read has an order, and the last of the two tickets. -/
theorem shuffled_entries_are_read_in_order :
    (Disk.ofSnapshot (Entries.shuffled.toBytes ++ [9])).read Storage.inData.snapshot =
        .ok (Entries.shuffled.toBytes ++ [9]) ∧
      ∃ registry, registry.entries = [(.zero, .plain), (.ones, { Ticket.plain with timeout := 7 })] ∧
        (Disk.ofSnapshot (Entries.shuffled.toBytes ++ [9])).run Storage.inData.loadSnapshot =
          (.ok (some registry), Disk.ofSnapshot (Entries.shuffled.toBytes ++ [9])) := by
  have hsight : (Disk.ofSnapshot (Entries.shuffled.toBytes ++ [9])).sight Storage.inData.snapshot =
      .ok (.file (Entries.shuffled.toBytes ++ [9])) := rfl
  have hread := Disk.read_ok_iff.2 hsight
  have hfits : Entries.shuffled.Fits := ⟨by decide, by simp [Entries.shuffled, Ticket.Fits, Ticket.plain]⟩
  refine ⟨hread, Registry.ofEntries .shuffled, rfl, ?_⟩
  exact ((a_snapshot_is_read_as_what_stands_in_it_or_refused hread).1 _).2
    ⟨.shuffled, [9], rfl, hfits, Registry.get?_ofEntries _⟩

end RetryTickets
