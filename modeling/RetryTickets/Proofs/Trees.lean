-- What is where in a tree of files: every place holds a file, a folder or
-- nothing, and a change to one name of a folder is a change at one place.
import RetryTickets.Files.Disk

namespace RetryTickets

/-- What a place in a tree holds, when it holds something. -/
inductive Kind where
  | file (content : Bytes)
  | folder
  deriving DecidableEq

namespace Node

/-- What kind of node this is. -/
def kind : Node → Kind
  | file content => .file content
  | folder _ => .folder

/-- Nodes with nothing inside. -/
def Bare : Node → Prop
  | file _ => True
  | folder entries => entries = []

end Node

namespace Folder

/-- What is at a place below a folder; the folder itself is where no name leads on. -/
def kind? : Folder → (place : List String) → Option Kind
  | _, [] => some .folder
  | folder, name :: rest =>
    match folder.get? name with
    | none => none
    | some (.file content) => if rest = [] then some (.file content) else none
    | some (.folder inner) => kind? inner rest

variable {folder inner : Folder} {place : List String} {name : String}

/-! ## Names in one folder -/

theorem get?_cons (entry : String × Node) (rest : Folder) (k : String) :
    get? (entry :: rest) k = if k = entry.1 then some entry.2 else get? rest k := by
  unfold get?
  rw [List.lookup_cons]
  by_cases h : k = entry.1
  · simp [h]
  · simp [h, beq_false_of_ne h]

theorem get?_set (folder : Folder) (name k : String) (node : Node) :
    (folder.set name node).get? k = if k = name then some node else folder.get? k := by
  induction folder with
  | nil => simp [set, get?_cons]
  | cons entry rest ih =>
    unfold set
    by_cases hentry : entry.1 = name
    · rw [if_pos hentry, get?_cons, get?_cons, hentry]
      by_cases h : k = name <;> simp [h]
    · rw [if_neg hentry, get?_cons, get?_cons, ih]
      by_cases h : k = name
      · simp [h, Ne.symm hentry]
      · simp [h]

theorem get?_remove (folder : Folder) (name k : String) :
    (folder.remove name).get? k = if k = name then none else folder.get? k := by
  induction folder with
  | nil => simp [remove, get?]
  | cons entry rest ih =>
    by_cases hentry : entry.1 = name
    · have hdrop : remove name (entry :: rest) = remove name rest := by simp [remove, hentry]
      rw [hdrop, ih, get?_cons, hentry]
      by_cases h : k = name <;> simp [h]
    · have hkeep : remove name (entry :: rest) = entry :: remove name rest := by
        simp [remove, hentry]
      rw [hkeep, get?_cons, get?_cons, ih]
      by_cases h : k = entry.1
      · simp [h, hentry]
      · simp [h]

theorem kind?_singleton (folder : Folder) (name : String) :
    folder.kind? [name] = (folder.get? name).map Node.kind := by
  unfold kind?
  cases folder.get? name with
  | none => rfl
  | some node => cases node <;> rfl

theorem kind?_nil_cons (name : String) (rest : List String) : kind? [] (name :: rest) = none := by
  simp [kind?, get?]

/-- Nothing is below a name that stands for nothing, or for a node with nothing inside. -/
theorem kind?_below_bare (bare : ∀ node, folder.get? name = some node → node.Bare)
    {rest : List String} (hrest : rest ≠ []) : folder.kind? (name :: rest) = none := by
  unfold kind?
  cases hget : folder.get? name with
  | none => rfl
  | some node =>
    have hbare := bare node hget
    cases node with
    | file content => simp [hrest]
    | folder entries =>
      obtain ⟨next, later, rfl⟩ := List.exists_cons_of_ne_nil hrest
      obtain rfl : entries = [] := hbare
      exact kind?_nil_cons next later

/-- A name that stands for a node with nothing inside, before and after, is one place. -/
theorem kind?_of_get? {changed : Folder} {node? : Option Node}
    (hget : ∀ k, changed.get? k = if k = name then node? else folder.get? k)
    (before : ∀ node, folder.get? name = some node → node.Bare)
    (after : ∀ node, node? = some node → node.Bare) (place : List String) :
    changed.kind? place = if place = [name] then node?.map Node.kind else folder.kind? place := by
  cases place with
  | nil => simp [kind?]
  | cons k rest =>
    by_cases hk : k = name
    · subst hk
      have hname : changed.get? k = node? := by simp [hget]
      by_cases hrest : rest = []
      · subst hrest
        simp [kind?_singleton, hname]
      · have hbare : ∀ node, changed.get? k = some node → node.Bare := by simpa [hname] using after
        simp [kind?_below_bare hbare hrest, kind?_below_bare before hrest, hrest]
    · have hother : changed.get? k = folder.get? k := by simp [hget, hk]
      simp [kind?, hother, hk]

/-! ## Places in a tree -/

theorem kind?_append (h : folder.at? place = some inner) (rest : List String) :
    folder.kind? (place ++ rest) = inner.kind? rest := by
  induction place generalizing folder with
  | nil =>
    cases h
    rfl
  | cons name place ih =>
    unfold at? at h
    split at h
    · rename_i next hget
      rw [List.cons_append, kind?, hget]
      exact ih h
    · cases h

/-- What is inside of something is inside of a folder. -/
theorem kind?_around {rest : List String} {kind : Kind} (h : folder.kind? (place ++ rest) = some kind)
    (hrest : rest ≠ []) : folder.kind? place = some .folder := by
  induction place generalizing folder with
  | nil => rfl
  | cons name place ih =>
    rw [List.cons_append, kind?] at h
    rw [kind?]
    split at h
    · cases h
    · simp [hrest] at h
    · exact ih h

theorem at?_append_singleton (h : folder.at? place = some inner) (name : String) :
    folder.at? (place ++ [name]) =
      match inner.get? name with
      | some (.folder next) => some next
      | _ => none := by
  induction place generalizing folder with
  | nil =>
    cases h
    rfl
  | cons first place ih =>
    unfold at? at h
    split at h
    · rename_i next hget
      rw [List.cons_append, at?, hget]
      exact ih h
    · cases h

theorem at?_of_kind? (h : folder.kind? place = some .folder) : ∃ inner, folder.at? place = some inner := by
  induction place generalizing folder with
  | nil => exact ⟨folder, rfl⟩
  | cons name place ih =>
    unfold kind? at h
    unfold at?
    split at h
    · cases h
    · rename_i hget
      split at h
      · cases h
      · cases h
    · rename_i next hget
      rw [hget]
      exact ih h

/-- A change to the folder at a place is seen below that place. -/
theorem kind?_update_within (h : folder.at? place = some inner) (change : Folder → Folder)
    (rest : List String) : (folder.update place change).kind? (place ++ rest) = (change inner).kind? rest := by
  induction place generalizing folder with
  | nil =>
    cases h
    rfl
  | cons name place ih =>
    unfold at? at h
    split at h
    · rename_i next hget
      rw [update, hget, List.cons_append, kind?, get?_set, if_pos rfl]
      exact ih h
    · cases h

/-- A change to the folder at a place is seen nowhere else. -/
theorem kind?_update_beside (folder : Folder) (change : Folder → Folder) {other : List String}
    (h : ¬ place <+: other) : (folder.update place change).kind? other = folder.kind? other := by
  induction place generalizing folder other with
  | nil => exact absurd (List.nil_prefix) h
  | cons name place ih =>
    unfold update
    split
    · rename_i next hget
      cases other with
      | nil => rfl
      | cons k rest =>
        rw [kind?, get?_set]
        by_cases hk : k = name
        · subst hk
          rw [if_pos rfl, kind?, hget]
          exact ih next fun hbegins => h (List.cons_prefix_cons.2 ⟨rfl, hbegins⟩)
        · rw [if_neg hk, kind?]
    · rfl

end Folder

namespace Disk

/-- What is at a place on a disk. -/
def kind? (disk : Disk) (place : List String) : Option Kind := disk.root.kind? place

variable {disk : Disk} {place : List String} {name : String}

theorem kind?_entry {inner : Folder} (h : disk.root.at? place = some inner) (name : String) :
    disk.kind? (place ++ [name]) = (inner.get? name).map Node.kind := by
  unfold kind?
  rw [Folder.kind?_append h, Folder.kind?_singleton]

theorem kind?_around {rest : List String} {kind : Kind} (h : disk.kind? (place ++ rest) = some kind)
    (hrest : rest ≠ []) : disk.kind? place = some .folder :=
  Folder.kind?_around h hrest

/-- A change to one name of a folder, before and after which nothing is inside, is a change at
one place. -/
theorem kind?_update {inner : Folder} {change : Folder → Folder} (node? : Option Node)
    (hat : disk.root.at? place = some inner)
    (hget : ∀ k, (change inner).get? k = if k = name then node? else inner.get? k)
    (before : ∀ node, inner.get? name = some node → node.Bare)
    (after : ∀ node, node? = some node → node.Bare) (other : List String) :
    (disk.update place change).kind? other =
      if other = place ++ [name] then node?.map Node.kind else disk.kind? other := by
  show (disk.root.update place change).kind? other = _
  by_cases hbegins : place <+: other
  · obtain ⟨rest, rfl⟩ := hbegins
    rw [Folder.kind?_update_within hat, Folder.kind?_of_get? hget before after]
    unfold kind?
    rw [Folder.kind?_append hat]
    simp
  · have hother : other ≠ place ++ [name] := by
      rintro rfl
      exact hbegins (List.prefix_append place [name])
    rw [Folder.kind?_update_beside _ _ hbegins, if_neg hother]
    rfl

end Disk

end RetryTickets
