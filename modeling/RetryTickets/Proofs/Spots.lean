-- Where a path would lead if every directory on its way were there. Its names
-- alone tell that, for a tree has no links. Directories that are made for a
-- path lie on its way.
import RetryTickets.Proofs.Creation

namespace RetryTickets

namespace Path

/-! ## Names that lead on -/

/-- Where a name leads on from a place, be it there or not. -/
def turn (place : List String) (name : String) : List String :=
  if isIdle name then place else if name = ".." then place.dropLast else place ++ [name]

/-- Where some names lead on from a place. -/
def turns (place names : List String) : List String := names.foldl turn place

variable {path parent : Path} {place names : List String} {name : String}

theorem turns_append (place a b : List String) : turns place (a ++ b) = turns (turns place a) b := by
  unfold turns
  rw [List.foldl_append]

theorem turn_idle (h : isIdle name = true) : turn place name = place := by simp [turn, h]

theorem turn_name (h : isIdle name = false) (hout : name ≠ "..") : turn place name = place ++ [name] := by
  simp [turn, h, hout]

theorem turns_idle (h : ∀ name ∈ names, isIdle name = true) : turns place names = place := by
  induction names with
  | nil => rfl
  | cons name names ih =>
    show turns (turn place name) names = place
    rw [turn_idle (h name List.mem_cons_self)]
    exact ih fun name hname => h name (List.mem_cons_of_mem _ hname)

/-- Without two dots there is no way back. -/
theorem prefix_turns (h : ".." ∉ names) (place : List String) : place <+: turns place names := by
  induction names generalizing place with
  | nil => exact List.prefix_rfl
  | cons name names ih =>
    have hout : name ≠ ".." := fun hout => h (hout ▸ List.mem_cons_self)
    have hrest := ih (fun hdots => h (List.mem_cons_of_mem _ hdots)) (turn place name)
    refine List.IsPrefix.trans ?_ hrest
    cases hidle : isIdle name with
    | true => exact ⟨[], by rw [List.append_nil, turn_idle hidle]⟩
    | false =>
      rw [turn_name hidle hout]
      exact List.prefix_append place [name]

/-- A name among them leads further. -/
theorem turns_ne (h : ".." ∉ names) (hname : ∃ name ∈ names, isIdle name = false) (place : List String) :
    turns place names ≠ place := by
  obtain ⟨name, hmem, hidle⟩ := hname
  obtain ⟨before, behind, rfl⟩ := List.append_of_mem hmem
  have hout : name ≠ ".." := fun hout => h (hout ▸ hmem)
  simp only [List.mem_append, List.mem_cons, not_or] at h
  have hbefore := (prefix_turns h.1 place).length_le
  have hbehind := (prefix_turns h.2.2 (turns place before ++ [name])).length_le
  rw [List.length_append, List.length_singleton] at hbehind
  intro hsame
  have hturns : turns place (before ++ name :: behind) =
      turns (turns place before ++ [name]) behind := by
    rw [turns_append, ← turn_name hidle hout]
    rfl
  rw [← hturns, hsame] at hbehind
  omega

/-- Every front of one row of names leads where some front of another one does. -/
def Follows (a b : List String) : Prop :=
  ∀ names, names <+: a → ∃ names', names' <+: b ∧ ∀ place, turns place names = turns place names'

theorem Follows.of_begins {a b : List String} (h : a <+: b) : Follows a b :=
  fun names hnames => ⟨names, hnames.trans h, fun _ => rfl⟩

theorem Follows.trans {a b c : List String} (h : Follows a b) (h' : Follows b c) : Follows a c := by
  intro names hnames
  obtain ⟨names', hnames', hsame⟩ := h names hnames
  obtain ⟨names'', hnames'', hsame'⟩ := h' names' hnames'
  exact ⟨names'', hnames'', fun place => (hsame place).trans (hsame' place)⟩

theorem Follows.ofParts {front shorter : List String} (h : ofParts front shorter ≠ .empty) :
    Follows (ofParts front shorter).segments (front ++ shorter) := by
  rcases segments_ofParts front shorter with hsegments | ⟨hnone, _⟩ | ⟨hroot, _⟩
  · rw [hsegments]
    exact .of_begins List.prefix_rfl
  · exact absurd hnone h
  · rw [hroot]
    intro names hnames
    refine ⟨[], List.nil_prefix, fun place => turns_idle fun name hname => ?_⟩
    have hslash := hnames.subset hname
    simp only [List.mem_cons, List.not_mem_nil, or_false, or_self] at hslash
    rw [hslash]
    rfl

/-! ## The last name -/

/-- What was dropped from the end of a row of names. -/
theorem eq_of_dropWhile {idle : String → Bool} {rest : List String}
    (h : names.reverse.dropWhile idle = rest) :
    ∃ dropped, names = rest.reverse ++ dropped ∧ ∀ name ∈ dropped, idle name = true := by
  refine ⟨(names.reverse.takeWhile idle).reverse, ?_, fun name hname => ?_⟩
  · rw [← h, ← List.reverse_append, List.takeWhile_append_dropWhile, List.reverse_reverse]
  · exact List.mem_takeWhile_imp (List.mem_reverse.1 hname)

theorem head_of_dropWhile {idle : String → Bool} {rest : List String}
    (h : names.dropWhile idle = name :: rest) : idle name = false := by
  have hne : names.dropWhile idle ≠ [] := by simp [h]
  have hhead := List.head_dropWhile_not idle hne
  simpa only [h, List.head_cons] using hhead

/-- The path of the directory around another one begins like that, and ends before a name. -/
theorem of_parent? (h : path.parent? = some parent) (hempty : parent ≠ .empty) :
    ∃ shorter later, parent = ofParts path.front shorter ∧
      path.segments = (path.front ++ shorter) ++ later ∧ ∃ name ∈ later, isIdle name = false := by
  unfold parent? at h
  split at h
  · split at h
    · cases h
      exact absurd rfl hempty
    · cases h
  · rename_i name rest hlast
    cases h
    obtain ⟨dropped, hbody, _⟩ := eq_of_dropWhile hlast
    obtain ⟨idle, hrest⟩ := prefix_of_idle rest.reverse
    rw [List.reverse_reverse] at hrest
    refine ⟨_, idle ++ name :: dropped, rfl, ?_, name, by simp, head_of_dropWhile hlast⟩
    rw [segments_eq path, hbody, List.reverse_cons, ← hrest]
    simp

end Path

namespace Disk

variable {disk made : Disk} {path parent : Path} {place last names : List String} {name : String}

/-- Where a path leads if every directory on its way is there. -/
def spot (disk : Disk) (path : Path) : List String := Path.turns [] (disk.start path ++ path.segments)

/-! ## Where walks end -/

theorem turn_of_pass (h : disk.pass place name = .ok last) : last = Path.turn place name := by
  rcases pass_ok_iff.1 h with ⟨hidle, rfl⟩ | ⟨rfl, rfl⟩ | ⟨hidle, hout, _, _, rfl⟩
  · rw [Path.turn_idle hidle]
  · rfl
  · rw [Path.turn_name hidle hout]

/-- A walk that goes through ends where its names lead. -/
theorem turns_of_walk (h : disk.walk place names = .ok last) : last = Path.turns place names := by
  induction names generalizing place with
  | nil =>
    cases h
    rfl
  | cons name names ih =>
    obtain ⟨next, hpass, hwalk⟩ := walk_cons_ok_iff.1 h
    rw [ih hwalk, turn_of_pass hpass]
    rfl

/-- A walk without two dots that goes through on another disk needs no more than the folder at
its end. -/
theorem walk_of_folder (hdots : ".." ∉ names)
    (hwalk : made.walk place names = .ok last) (hfolder : disk.kind? last = some .folder) :
    disk.walk place names = .ok last := by
  induction names generalizing place with
  | nil => exact hwalk
  | cons name names ih =>
    have hrest : ".." ∉ names := fun h => hdots (List.mem_cons_of_mem _ h)
    obtain ⟨next, hpass, hwalk⟩ := walk_cons_ok_iff.1 hwalk
    refine walk_cons_ok_iff.2 ⟨next, ?_, ih hrest hwalk⟩
    rcases pass_ok_iff.1 hpass with hidle | ⟨rfl, _⟩ | ⟨hidle, hout, hshort, _, rfl⟩
    · exact pass_ok_iff.2 (Or.inl hidle)
    · exact absurd List.mem_cons_self hdots
    · refine pass_ok_iff.2 (Or.inr (Or.inr ⟨hidle, hout, hshort, ?_, rfl⟩))
      -- The place is on the way to the folder at the end.
      obtain ⟨rest, hlast⟩ := Path.prefix_turns hrest (place ++ [name])
      rw [← turns_of_walk hwalk] at hlast
      by_cases hnone : rest = []
      · rw [hnone, List.append_nil] at hlast
        rw [hlast, hfolder]
      · rw [← hlast] at hfolder
        exact kind?_around hfolder hnone

/-- The last name of a path that leads to a name in a folder. -/
theorem last_of_target (h : disk.target path = .ok (.entry place name)) :
    Path.isIdle name = false ∧ name ≠ ".." ∧
      ∃ before slashes, path.segments = before ++ name :: slashes ∧
        (∀ slash ∈ slashes, slash = "") ∧ disk.walk [] (disk.start path ++ before) = .ok place := by
  obtain ⟨_, h⟩ := target_ok_iff.1 h
  split at h
  · cases h
  · rename_i last before hlast
    obtain ⟨front, hwalk, h⟩ := h
    obtain ⟨slashes, hsegments, hslashes⟩ := Path.eq_of_dropWhile hlast
    have hempty := of_decide_eq_false (Path.head_of_dropWhile hlast)
    unfold Target.ofLast at h
    split at h
    · cases h
    · rename_i hdot
      split at h
      · cases h
      · rename_i hout
        cases h
        refine ⟨by simp [Path.isIdle, hempty, hdot], hout, before.reverse, slashes, ?_, ?_, hwalk⟩
        · simpa using hsegments
        · exact fun slash hslash => of_decide_eq_true (hslashes slash hslash)

theorem spot_of_target (h : disk.target path = .ok (.entry place name)) :
    disk.spot path = place ++ [name] := by
  obtain ⟨hidle, hout, before, slashes, hsegments, hslashes, hwalk⟩ := last_of_target h
  unfold spot
  rw [hsegments, ← List.append_assoc, Path.turns_append, ← turns_of_walk hwalk]
  show Path.turns (Path.turn place name) slashes = _
  rw [Path.turn_name hidle hout]
  refine Path.turns_idle fun slash hslash => ?_
  rw [hslashes slash hslash]
  rfl

/-- A path without two dots leads where it does on another disk once the folder there is there. -/
theorem target_of_folder (hworking : made.working = disk.working)
    (hdots : ".." ∉ disk.start path ++ path.segments)
    (htarget : made.target path = .ok (.entry place name))
    (hfolder : disk.kind? place = some .folder) : disk.target path = .ok (.entry place name) := by
  have hstart : made.start path = disk.start path := by
    unfold start
    rw [hworking]
  obtain ⟨haccept, h⟩ := target_ok_iff.1 htarget
  refine target_ok_iff.2 ⟨haccept, ?_⟩
  split
  · rename_i hlast
    rw [hlast] at h
    exact h
  · rename_i last before hlast
    rw [hlast, hstart] at h
    obtain ⟨front, hwalk, hentry⟩ := h
    have hfront : place = front := by
      unfold Target.ofLast at hentry
      split at hentry
      · cases hentry
      · split at hentry
        · cases hentry
        · cases hentry
          rfl
    obtain ⟨dropped, hsegments, _⟩ := Path.eq_of_dropWhile hlast
    have hbefore : ".." ∉ disk.start path ++ before.reverse := by
      intro hmem
      apply hdots
      rw [hsegments, List.reverse_cons, List.append_assoc, ← List.append_assoc]
      exact List.mem_append_left _ hmem
    exact ⟨front, walk_of_folder hbefore hwalk (hfront ▸ hfolder), hentry⟩

/-- Around what a path leads to there is a folder, and its path leads there. -/
theorem parent_sight (h : disk.target path = .ok (.entry place name))
    (hparent : path.parent? = some parent) (hempty : parent ≠ .empty) :
    disk.sight parent = .ok .folder := by
  obtain ⟨_, _, before, slashes, hsegments, hslashes, hwalk⟩ := last_of_target h
  obtain ⟨shorter, later, rfl, hlater, other, hother, hidle⟩ := Path.of_parent? hparent hempty
  have hfront : path.front ++ shorter <+: before := by
    rcases List.append_eq_append_iff.1 (hlater.symm.trans hsegments) with
      ⟨between, hbefore, _⟩ | ⟨_ | ⟨first, between⟩, hbefore, hbehind⟩
    · exact ⟨between, hbefore.symm⟩
    · exact ⟨[], by rw [List.append_nil, hbefore, List.append_nil]⟩
    -- Only slashes are behind the last name, and the parent leaves out more than those.
    · rw [List.cons_append, List.cons.injEq] at hbehind
      have hslash : other = "" := hslashes other (hbehind.2 ▸ List.mem_append_right between hother)
      rw [hslash] at hidle
      cases hidle
  obtain ⟨between, rfl⟩ := hfront
  rw [← List.append_assoc] at hwalk
  obtain ⟨middle, hmiddle, _⟩ := walk_append_ok_iff.1 hwalk
  exact (OnDisk.sight_ofParts_iff (target_ok_iff.1 h).1 ⟨later, hlater.symm⟩ hempty).2
    ⟨middle, hmiddle⟩

/-! ## Directories on the way -/

/-- A place on the way of a path, before its last name. -/
def OnWay (disk : Disk) (path : Path) (place : List String) : Prop :=
  ∃ names later, path.segments = names ++ later ∧ (∃ name ∈ later, Path.isIdle name = false) ∧
    place = Path.turns [] (disk.start path ++ names)

/-- The directories around the one around a path are on its way. -/
theorem onWay_of_around {outer : Path} (hparent : path.parent? = some parent)
    (haround : parent.Around outer) (htarget : disk.target outer = .ok (.entry place name)) :
    disk.OnWay path (place ++ [name]) := by
  have hnonempty : outer ≠ .empty := (Path.accept_ok_iff.1 (target_ok_iff.1 htarget).1).2.1
  have hempty : parent ≠ .empty := by
    rintro rfl
    rcases haround with rfl | ⟨_ | ⟨first, rest⟩, hinner, rfl⟩
    · exact hnonempty rfl
    · exact hnonempty rfl
    · obtain ⟨rfl, hrest⟩ := List.cons_prefix_cons.1 (show first :: rest <+: [""] from hinner)
      rw [List.prefix_nil.1 hrest] at hnonempty
      exact hnonempty rfl
  obtain ⟨shorter, later, rfl, hsegments, hlater⟩ := Path.of_parent? hparent hempty
  have hstart : disk.start outer = disk.start path := by
    rw [OnDisk.start_of_around disk haround hnonempty, OnDisk.start_ofParts disk ⟨later, hsegments.symm⟩ hempty]
  have hfollows : Path.Follows outer.segments (path.front ++ shorter) := by
    refine Path.Follows.trans ?_ (.ofParts hempty)
    rcases haround with rfl | ⟨inner, hinner, rfl⟩
    · exact .of_begins List.prefix_rfl
    · refine (Path.Follows.ofParts hnonempty).trans (.of_begins ?_)
      rw [Path.segments_eq (.ofParts path.front shorter), List.prefix_append_right_inj]
      exact hinner
  obtain ⟨names, ⟨between, hnames⟩, hsame⟩ := hfollows _ List.prefix_rfl
  refine ⟨names, between ++ later, ?_, ?_, ?_⟩
  · rw [hsegments, ← hnames, List.append_assoc]
  · obtain ⟨name, hname, hidle⟩ := hlater
    exact ⟨name, List.mem_append_right _ hname, hidle⟩
  · rw [← spot_of_target htarget, spot, hstart, Path.turns_append, Path.turns_append, hsame]

/-- Without two dots a path does not lead to a place on its own way. -/
theorem spot_not_onWay (hdots : ".." ∉ path.segments) : ¬ disk.OnWay path (disk.spot path) := by
  rintro ⟨names, later, hsegments, hlater, hspot⟩
  rw [hsegments, List.mem_append, not_or] at hdots
  unfold spot at hspot
  rw [hsegments, ← List.append_assoc, Path.turns_append] at hspot
  exact Path.turns_ne hdots.2 hlater _ hspot

end Disk

end RetryTickets
