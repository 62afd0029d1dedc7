-- Paths by their segments: what the directories around a path are, and that
-- the system takes their paths if it takes the path itself.
import Mathlib.Data.List.TakeWhile
import RetryTickets.Proofs.Walks

namespace RetryTickets

namespace Path

variable {path : Path} {front shorter whole : List String}

theorem ext_segments {a b : Path} (h : a.segments = b.segments) : a = b := by
  cases a
  cases b
  simp_all

/-! ## The front of a path -/

/-- A front is that of the root, that of the working directory, or none. -/
theorem front_cases (path : Path) :
    path.front = [""] ∨ path.front = ["."] ∨ path.front = [] := by
  unfold front
  split
  · exact Or.inl rfl
  · exact Or.inr (Or.inl rfl)
  · exact Or.inr (Or.inr rfl)

theorem segments_eq (path : Path) : path.segments = path.front ++ path.body := by
  unfold body front
  split
  · rename_i h
    simp [h]
  · rename_i h
    simp [h]
  · simp

theorem isAbsolute_iff_front : path.isAbsolute = true ↔ path.front = [""] := by
  obtain ⟨segments⟩ := path
  match segments with
  | [] => simp [isAbsolute, front]
  | [first] =>
    by_cases hempty : first = ""
    · simp [isAbsolute, front, hempty]
    · by_cases hdot : first = "." <;> simp [isAbsolute, front, hempty, hdot]
  | first :: second :: rest =>
    by_cases hempty : first = ""
    · simp [isAbsolute, front, hempty]
    · by_cases hdot : first = "." <;> simp [isAbsolute, front, hempty, hdot]

/-! ## Paths made of a front and some segments -/

/-- The segments of a path of parts are the parts, except where these alone would be no path. -/
theorem segments_ofParts (front shorter : List String) :
    (ofParts front shorter).segments = front ++ shorter ∨
      (ofParts front shorter = .empty ∧ front = [] ∧ shorter = []) ∨
      ((ofParts front shorter).segments = ["", ""] ∧ front = [""] ∧ shorter = []) := by
  unfold ofParts
  split
  · exact Or.inr (Or.inl ⟨rfl, rfl, rfl⟩)
  · exact Or.inr (Or.inr ⟨rfl, rfl, rfl⟩)
  · exact Or.inl rfl

theorem segments_ofParts_ne_nil (h : ofParts front shorter ≠ .empty) :
    (ofParts front shorter).segments ≠ [] := by
  rcases segments_ofParts front shorter with hsegments | ⟨hnone, _⟩ | ⟨hroot, _⟩
  · rw [hsegments]
    intro hnil
    obtain ⟨rfl, rfl⟩ := List.append_eq_nil_iff.1 hnil
    exact h rfl
  · exact absurd hnone h
  · rw [hroot]
    exact List.cons_ne_nil "" [""]

/-- What is made of a front and the segments behind it starts where the path does. -/
theorem isAbsolute_ofParts (hbegins : path.front ++ shorter <+: path.segments)
    (hempty : ofParts path.front shorter ≠ .empty) :
    (ofParts path.front shorter).isAbsolute = path.isAbsolute := by
  have habsolute : path.isAbsolute = true ↔ path.front = [""] := isAbsolute_iff_front
  rw [Bool.eq_iff_iff, habsolute]
  rcases segments_ofParts path.front shorter with hsegments | ⟨hnone, _⟩ | ⟨hroot, hfront, _⟩
  · rcases front_cases path with hfront | hfront | hfront
    · have hne : shorter ≠ [] := by
        rintro rfl
        rw [hfront] at hsegments
        exact absurd hsegments (by decide)
      rw [hfront] at hsegments ⊢
      simp [isAbsolute, hsegments, hne]
    · rw [hfront] at hsegments ⊢
      simp [isAbsolute, hsegments]
    · have hnot : path.front ≠ [""] := by simp [hfront]
      refine iff_of_false (fun hslash => ?_) hnot
      rw [hfront, List.nil_append] at hbegins hsegments
      obtain ⟨rest, hwhole⟩ := hbegins
      rw [hfront] at hslash
      simp only [isAbsolute, hsegments, Bool.and_eq_true, decide_eq_true_eq] at hslash
      obtain ⟨hhead, hlong⟩ := hslash
      obtain ⟨later, rfl⟩ : ∃ later, shorter = "" :: later := by
        cases shorter with
        | nil => cases hhead
        | cons first later => exact ⟨later, by simpa using hhead⟩
      -- A slash in front would have been the front of the path.
      unfold front at hfront
      rw [← hwhole] at hfront
      cases later with
      | nil => exact hlong rfl
      | cons second later => cases hfront
  · exact absurd hnone hempty
  · rw [hfront] at hroot ⊢
    simp [isAbsolute, hroot]

/-- What is made of a front and the segments behind it has that front and those segments. -/
theorem front_ofParts (hbegins : path.front ++ shorter <+: path.segments) (hne : shorter ≠ [])
    (hempty : ofParts path.front shorter ≠ .empty) :
    (ofParts path.front shorter).front = path.front ∧ (ofParts path.front shorter).body = shorter := by
  obtain ⟨first, later, rfl⟩ := List.exists_cons_of_ne_nil hne
  have hfront : (ofParts path.front (first :: later)).front = path.front := by
    rcases front_cases path with hfront | hfront | hfront
    · rw [hfront]
      rfl
    · rw [hfront]
      rfl
    · rw [hfront] at hbegins hempty ⊢
      obtain ⟨rest, hwhole⟩ := hbegins
      show front ⟨first :: later⟩ = []
      unfold front at hfront ⊢
      rw [← hwhole] at hfront
      split
      · rename_i second others hsegments
        obtain ⟨rfl, rfl⟩ := List.cons.inj hsegments
        cases hfront
      · rename_i others hsegments
        obtain ⟨rfl, rfl⟩ := List.cons.inj hsegments
        cases hfront
      · rfl
  have hsegments : (ofParts path.front (first :: later)).segments = path.front ++ first :: later := by
    rcases segments_ofParts path.front (first :: later) with h | ⟨h, _⟩ | ⟨_, _, h⟩
    · exact h
    · exact absurd h hempty
    · cases h
  refine ⟨hfront, ?_⟩
  unfold body
  rw [hfront, hsegments, List.drop_left]

theorem ofParts_ne_empty {name : String} (hname : isIdle name = false) (front init : List String) :
    ofParts front (init ++ [name]) ≠ .empty := by
  intro hempty
  rcases segments_ofParts front (init ++ [name]) with hsegments | ⟨_, _, hnil⟩ | ⟨_, _, hnil⟩
  · rw [hempty, ← List.append_assoc] at hsegments
    have hlast := congrArg List.getLast? hsegments
    rw [List.getLast?_concat] at hlast
    cases hlast
    cases hname
  · exact List.append_ne_nil_of_right_ne_nil init (List.cons_ne_nil name []) hnil
  · exact List.append_ne_nil_of_right_ne_nil init (List.cons_ne_nil name []) hnil

theorem walk_ofParts (disk : Disk) (place front shorter : List String) :
    disk.walk place (ofParts front shorter).segments = disk.walk place (front ++ shorter) := by
  have hslash : ∀ place, disk.pass place "" = .ok place := fun place => Disk.pass_idle rfl
  rcases segments_ofParts front shorter with hsegments | ⟨hnone, rfl, rfl⟩ | ⟨hroot, rfl, rfl⟩
  · rw [hsegments]
  · rw [hnone]
    exact hslash place
  · rw [hroot, Disk.walk_cons, hslash]
    rfl

/-! ## Texts -/

theorem text_append {a : List String} (ha : a ≠ []) (b : List String) :
    ∃ tail, text ⟨a ++ b⟩ = text ⟨a⟩ ++ tail := by
  unfold text
  by_cases hb : b = []
  · exact ⟨"", by simp [hb]⟩
  · exact ⟨"/" ++ String.intercalate "/" b, by
      rw [String.intercalate_append_of_ne_nil ha hb, String.append_assoc]⟩

theorem accept_ok_iff :
    Disk.accept path = .ok () ↔ path.text.toList.contains (Char.ofNat 0) = false ∧ path ≠ .empty ∧
      ¬ pathLimit < path.text.utf8ByteSize := by
  unfold Disk.accept
  cases hzero : path.text.toList.contains (Char.ofNat 0) with
  | true => simp only [if_true, reduceCtorEq, false_and, Bool.true_eq_false]
  | false =>
    by_cases hempty : path = .empty
    · simp [hempty]
    · by_cases hlong : pathLimit < path.text.utf8ByteSize <;> simp [hempty, hlong]

/-- The system takes the front of a path that it takes. -/
theorem accept_of_prefix {a b : List String} (h : Disk.accept ⟨a ++ b⟩ = .ok ()) (ha : a ≠ [])
    (hempty : (⟨a⟩ : Path) ≠ .empty) : Disk.accept ⟨a⟩ = .ok () := by
  obtain ⟨tail, htext⟩ := text_append ha b
  obtain ⟨hzero, _, hlong⟩ := accept_ok_iff.1 h
  rw [htext] at hzero hlong
  refine accept_ok_iff.2 ⟨?_, hempty, ?_⟩
  · simp only [String.toList_append, List.contains_eq_mem, List.mem_append, decide_eq_false_iff_not,
      not_or] at hzero ⊢
    exact hzero.1
  · rw [String.utf8ByteSize_append] at hlong
    omega

theorem accept_ofParts (h : Disk.accept ⟨whole⟩ = .ok ()) (hbegins : front ++ shorter <+: whole)
    (hempty : ofParts front shorter ≠ .empty) : Disk.accept (ofParts front shorter) = .ok () := by
  rcases segments_ofParts front shorter with hsegments | ⟨hnone, _⟩ | ⟨hroot, _⟩
  · obtain ⟨rest, rfl⟩ := hbegins
    have hpath : ofParts front shorter = ⟨front ++ shorter⟩ := ext_segments hsegments
    have hne : front ++ shorter ≠ [] := by
      intro hnil
      obtain ⟨rfl, rfl⟩ := List.append_eq_nil_iff.1 hnil
      exact hempty rfl
    rw [hpath] at hempty ⊢
    exact accept_of_prefix h hne hempty
  · exact absurd hnone hempty
  · have hpath : ofParts front shorter = ⟨["", ""]⟩ := ext_segments hroot
    rw [hpath]
    rfl

/-! ## Files in a directory -/

/-- Names that stand for a file of their own, short enough to ask for. -/
structure Plain (file : String) : Prop where
  nonempty : file ≠ ""
  nonidle : Path.isIdle file = false
  inner : file ≠ ".."
  short : ¬ nameLimit < file.utf8ByteSize

/-- The segments of a directory in front of those of a file in it. -/
def base (directory : Path) : List String :=
  if directory.endsInSlash then directory.segments.dropLast else directory.segments

variable {directory : Path} {file : String}

theorem join_eq (directory : Path) (file : String) :
    directory.join file = ⟨directory.base ++ [file]⟩ := by
  unfold join base
  split <;> rfl

theorem segments_eq_base (directory : Path) :
    directory.segments = directory.base ∨ directory.segments = directory.base ++ [""] := by
  unfold base
  split
  · rename_i hslash
    have hlast : directory.segments.getLast? = some "" := by
      simpa [endsInSlash] using hslash
    obtain ⟨before, hsegments⟩ := List.getLast?_eq_some_iff.1 hlast
    rw [hsegments, List.dropLast_concat]
    exact Or.inr rfl
  · exact Or.inl rfl

theorem base_ne_nil (h : directory.text ≠ "") : directory.base ≠ [] := by
  intro hbase
  obtain ⟨segments⟩ := directory
  rcases segments_eq_base ⟨segments⟩ with hsegments | hsegments
  · rw [hbase] at hsegments
    obtain rfl : segments = [] := hsegments
    exact h (by simp [text])
  · rw [hbase] at hsegments
    obtain rfl : segments = [""] := hsegments
    exact h (by simp [text])

/-- The last segment is no part of where a path starts. -/
theorem isAbsolute_join (h : directory.text ≠ "") (file : String) :
    (directory.join file).isAbsolute = directory.isAbsolute := by
  obtain ⟨first, rest, hbase⟩ := List.exists_cons_of_ne_nil (base_ne_nil h)
  have hne : directory.segments ≠ [""] := by
    intro hone
    apply h
    unfold text
    rw [hone]
    simp
  have hhead : directory.segments.head? = some first := by
    rcases segments_eq_base directory with hsegments | hsegments <;> simp [hsegments, hbase]
  rw [join_eq, hbase]
  unfold isAbsolute
  simp [hhead, hne]

theorem endsInSlash_join (directory : Path) (hfile : Plain file) :
    (directory.join file).endsInSlash = false := by
  rw [join_eq]
  simp [endsInSlash, hfile.nonempty]

/-- What a joined path begins with, the directory begins with. -/
theorem front_join (h : directory.text ≠ "") (file : String) :
    (directory.join file).front ++ directory.base.drop (directory.join file).front.length =
        directory.base ∧
      (directory.join file).body =
        directory.base.drop (directory.join file).front.length ++ [file] := by
  obtain ⟨first, rest, hbase⟩ := List.exists_cons_of_ne_nil (base_ne_nil h)
  have hlength : (directory.join file).front.length ≤ directory.base.length := by
    rw [hbase]
    rcases front_cases (directory.join file) with hfront | hfront | hfront <;> simp [hfront]
  have hbody : (directory.join file).body =
      directory.base.drop (directory.join file).front.length ++ [file] := by
    unfold body
    rw [join_eq, List.drop_append_of_le_length]
    rw [← join_eq]
    exact hlength
  refine ⟨?_, hbody⟩
  have hsegments := segments_eq (directory.join file)
  rw [hbody, ← List.append_assoc] at hsegments
  conv at hsegments =>
    lhs
    rw [join_eq]
  exact (List.append_cancel_right hsegments).symm

/-- A path without a front begins with a name. -/
theorem nonidle_of_front {first second : String} {rest : List String}
    (hsegments : path.segments = first :: second :: rest) (hfront : path.front = []) :
    isIdle first = false := by
  have hempty : first ≠ "" := by
    rintro rfl
    unfold front at hfront
    rw [hsegments] at hfront
    cases hfront
  have hdot : first ≠ "." := by
    rintro rfl
    unfold front at hfront
    rw [hsegments] at hfront
    cases hfront
  simp [isIdle, hempty, hdot]

theorem prefix_of_idle (inner : List String) :
    (inner.reverse.dropWhile isIdle).reverse <+: inner := by
  have hsuffix := List.reverse_prefix.2 (List.dropWhile_suffix isIdle (l := inner.reverse))
  rwa [List.reverse_reverse] at hsuffix

theorem trimmed_of_idle (inner : List String) :
    (inner.reverse.dropWhile isIdle).reverse = [] ∨
      ∃ name rest, inner.reverse.dropWhile isIdle = name :: rest ∧ isIdle name = false := by
  cases hdrop : inner.reverse.dropWhile isIdle with
  | nil => exact Or.inl rfl
  | cons name rest =>
    have hne : inner.reverse.dropWhile isIdle ≠ [] := by simp [hdrop]
    have hhead := List.head_dropWhile_not isIdle hne
    simp only [hdrop, List.head_cons] at hhead
    exact Or.inr ⟨name, rest, rfl, hhead⟩

/-- The directory around a file has a path: idle segments alone would have been a front. -/
theorem ofParts_join_ne_empty (h : directory.text ≠ "") (file : String) {inner : List String}
    (hbase : (directory.join file).front ++ inner = directory.base) :
    ofParts (directory.join file).front (inner.reverse.dropWhile isIdle).reverse ≠ .empty := by
  rcases front_cases (directory.join file) with hfront | hfront | hfront
  · rw [hfront]
    unfold ofParts
    split <;> simp_all [empty]
  · rw [hfront]
    unfold ofParts
    split <;> simp_all [empty]
  · obtain ⟨first, rest, hfirst⟩ := List.exists_cons_of_ne_nil (base_ne_nil h)
    rw [hfront, List.nil_append, hfirst] at hbase
    subst hbase
    have hsegments : (directory.join file).segments = first :: (rest ++ [file]) := by
      rw [join_eq, hfirst]
      rfl
    have hfirstName : isIdle first = false := by
      obtain ⟨second, later, hlater⟩ :=
        List.exists_cons_of_ne_nil (List.append_ne_nil_of_right_ne_nil rest (List.cons_ne_nil file []))
      rw [hlater] at hsegments
      exact nonidle_of_front hsegments hfront
    obtain ⟨later, hbegins⟩ := prefix_of_idle (first :: rest)
    rw [hfront]
    cases hshorter : ((first :: rest).reverse.dropWhile isIdle).reverse with
    | nil =>
      have hall := List.dropWhile_eq_nil_iff.1 (List.reverse_eq_nil_iff.1 hshorter) first (by simp)
      rw [hall] at hfirstName
      cases hfirstName
    | cons head tail =>
      rw [hshorter] at hbegins
      obtain ⟨rfl, _⟩ := List.cons.inj hbegins
      intro hempty
      have hone : head :: tail = [""] := congrArg segments hempty
      obtain ⟨rfl, rfl⟩ := List.cons.inj hone
      cases hfirstName

/-- The directory around a file is the one it was joined to. -/
theorem parent?_join (h : directory.text ≠ "") (hfile : Plain file) :
    ∃ shorter, (directory.join file).parent? = some (.ofParts (directory.join file).front shorter) ∧
      Path.ofParts (directory.join file).front shorter ≠ .empty ∧
      (directory.join file).front ++ shorter <+: (directory.join file).segments ∧
      (shorter = [] ∨ ∃ name rest, shorter.reverse = name :: rest ∧ isIdle name = false) ∧
      ∀ (disk : Disk) (place : List String),
        disk.walk place ((directory.join file).front ++ shorter) = disk.walk place directory.base := by
  obtain ⟨hbase, hbody⟩ := front_join h file
  have hsegments := segments_eq (directory.join file)
  generalize hk : directory.base.drop (directory.join file).front.length = inner at hbase hbody
  refine ⟨(inner.reverse.dropWhile isIdle).reverse, ?_, ?_, ?_, ?_, ?_⟩
  · unfold parent?
    rw [hbody, List.reverse_append, List.reverse_singleton, List.singleton_append,
      List.dropWhile_cons_of_neg (by simp [hfile.nonidle])]
  · exact ofParts_join_ne_empty h file hbase
  · rw [hsegments, hbody, List.prefix_append_right_inj]
    exact (prefix_of_idle inner).trans (List.prefix_append inner [file])
  · rw [List.reverse_reverse]
    exact trimmed_of_idle inner
  · intro disk place
    rw [← hbase, Disk.walk_append, Disk.walk_append]
    congr 1
    funext next
    rw [Disk.walk_reverse_dropWhile (fun _ hidle => hidle), List.reverse_reverse]

theorem plain_events : Plain "events.log" := ⟨by decide, by decide, by decide, by decide⟩

theorem plain_snapshot : Plain "tickets.bin" := ⟨by decide, by decide, by decide, by decide⟩

theorem plain_temporary : Plain "tickets.bin.tmp" := ⟨by decide, by decide, by decide, by decide⟩

theorem temporary_join (directory : Path) :
    (directory.join "tickets.bin").withExtension "bin.tmp" = directory.join "tickets.bin.tmp" := by
  have hstem : stem "tickets.bin" = "tickets" := by decide
  have hlast : (directory.base ++ ["tickets.bin"]).reverse.dropWhile isIdle =
      "tickets.bin" :: directory.base.reverse := by
    rw [List.reverse_append, List.reverse_singleton, List.singleton_append,
      List.dropWhile_cons_of_neg (by simp [plain_snapshot.nonidle])]
  rw [join_eq, join_eq]
  unfold withExtension
  simp only [hlast, plain_snapshot.inner, if_false, hstem]
  rw [if_neg fun h => absurd h.1 (by decide), List.reverse_cons, List.reverse_reverse]
  rfl

end Path

namespace Disk

/-- A file in a directory is looked for at the end of the walk to it. -/
theorem target_join (disk : Disk) {directory : Path} {file : String} (hfile : Path.Plain file)
    (haccept : accept (directory.join file) = .ok ()) :
    disk.target (directory.join file) =
      (disk.walk [] (disk.start (directory.join file) ++ directory.base)).map
        fun place => .entry place file := by
  have hlast : (directory.join file).segments.reverse.dropWhile (· = "") =
      file :: directory.base.reverse := by
    rw [Path.join_eq, List.reverse_append, List.reverse_singleton, List.singleton_append,
      List.dropWhile_cons_of_neg (by simpa using hfile.nonempty)]
  have hdot : file ≠ "." := by
    rintro rfl
    exact absurd hfile.nonidle (by decide)
  rw [target_eq, haccept]
  simp only [Except.bind, hlast, List.reverse_reverse, Target.ofLast, hdot, hfile.inner, if_false]

end Disk

end RetryTickets
