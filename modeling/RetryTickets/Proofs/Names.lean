-- Which texts are names, and of what. Around a name may stand blank space, and one
-- mark may stand in front of its digits; there are as many digits as its bytes need.
-- Every other text is refused.
import RetryTickets.Error
import RetryTickets.Proofs.Digits

namespace RetryTickets

/-! ## The frame of a name -/

namespace Text

variable {text core digits before after : List Char} {b : Bytes}

/-- Blank space alone. -/
def Blank (text : List Char) : Prop := ∀ c ∈ text, isBlank c = true

/-- Digits with blank space around them, and maybe one mark in front. -/
def Framed (text digits : List Char) : Prop :=
  ∃ before mark after, text = before ++ (mark ++ digits) ++ after ∧
    Blank before ∧ Blank after ∧ (mark = [] ∨ mark = ['0', 'x'])

theorem Blank.reverse (h : Blank text) : Blank text.reverse := by
  intro c hmem
  exact h c (List.mem_reverse.1 hmem)

theorem trimStart_append (h : Blank before) : trimStart (before ++ text) = trimStart text :=
  List.dropWhile_append_of_pos h

theorem trimStart_cons {c : Char} (h : isBlank c = false) : trimStart (c :: text) = c :: text := by
  apply List.dropWhile_cons_of_neg
  rw [h]
  exact Bool.false_ne_true

theorem trimStart_of_ink (h : ∀ c ∈ core, isBlank c = false) : trimStart core = core := by
  cases core with
  | nil => rfl
  | cons c core => exact trimStart_cons (h c List.mem_cons_self)

/-- What stands between the blank space is left. -/
theorem trim_around (hbefore : Blank before) (hcore : ∀ c ∈ core, isBlank c = false)
    (hafter : Blank after) : trim (before ++ core ++ after) = core := by
  unfold trim trimEnd
  rw [List.append_assoc, trimStart_append hbefore]
  -- With nothing between, what stands behind is taken away from the front as well.
  cases core with
  | nil =>
    have hnone : trimStart (after ++ []) = trimStart [] := trimStart_append hafter
    rw [List.append_nil] at hnone
    rw [List.nil_append, hnone]
    rfl
  | cons c core =>
    have hstart : trimStart (c :: core ++ after) = c :: core ++ after :=
      trimStart_cons (hcore c List.mem_cons_self)
    have hend : trimStart (c :: core).reverse = (c :: core).reverse := by
      apply trimStart_of_ink
      intro d hmem
      exact hcore d (List.mem_reverse.1 hmem)
    rw [hstart, List.reverse_append, trimStart_append hafter.reverse, hend, List.reverse_reverse]

theorem exists_trimStart (text : List Char) :
    ∃ before, Blank before ∧ text = before ++ trimStart text := by
  refine ⟨text.takeWhile isBlank, ?_, List.takeWhile_append_dropWhile.symm⟩
  exact List.all_eq_true.1 List.all_takeWhile

/-- Only blank space is taken away, and only at the ends. -/
theorem exists_trim (text : List Char) :
    ∃ before after, Blank before ∧ Blank after ∧ text = before ++ trim text ++ after := by
  obtain ⟨before, hbefore, hstart⟩ := exists_trimStart text
  obtain ⟨after, hafter, hend⟩ := exists_trimStart (trimStart text).reverse
  refine ⟨before, after.reverse, hbefore, hafter.reverse, ?_⟩
  have hends : trimStart text = trim text ++ after.reverse :=
    (List.reverse_eq_iff.1 hend).trans List.reverse_append
  rw [List.append_assoc, ← hends]
  exact hstart

/-- At most one mark is taken away. -/
theorem exists_withoutMark (text : List Char) :
    ∃ mark, (mark = [] ∨ mark = ['0', 'x']) ∧ text = mark ++ withoutMark text := by
  unfold withoutMark
  split
  · exact ⟨['0', 'x'], Or.inr rfl, rfl⟩
  · exact ⟨[], Or.inl rfl, rfl⟩

/-- Every text is a frame for what is left of it. -/
theorem framed_withoutMark_trim (text : List Char) : Framed text (withoutMark (trim text)) := by
  obtain ⟨before, after, hbefore, hafter, htext⟩ := exists_trim text
  obtain ⟨mark, hmark, htrimmed⟩ := exists_withoutMark (trim text)
  refine ⟨before, mark, after, ?_, hbefore, hafter, hmark⟩
  rw [← htrimmed]
  exact htext

/-- Neither a digit nor the mark is blank. -/
theorem ink_of_spells {mark : List Char} (hmark : mark = [] ∨ mark = ['0', 'x'])
    (h : Hex.Spells digits b) : ∀ c ∈ mark ++ digits, isBlank c = false := by
  have hdigits : ∀ d ∈ Hex.digits, isBlank d.1 = false := by decide
  intro c hmem
  rcases List.mem_append.1 hmem with hmem | hmem
  · rcases hmark with rfl | rfl
    · cases hmem
    · simp only [List.mem_cons, List.not_mem_nil, or_false] at hmem
      rcases hmem with rfl | rfl
      · rfl
      · rfl
  · obtain ⟨value, hdigit⟩ := h.digit c hmem
    exact hdigits _ hdigit

/-- Digits begin with no mark, for its second character is none. -/
theorem withoutMark_of_spells (h : Hex.Spells digits b) : withoutMark digits = digits := by
  unfold withoutMark
  split
  · rename_i rest
    have hx : ∀ d ∈ Hex.digits, d.1 ≠ 'x' := by decide
    obtain ⟨value, hdigit⟩ := h.digit 'x' (by simp)
    exact absurd rfl (hx _ hdigit)
  · rfl

/-- Of digits in their frame, just the digits are left. -/
theorem withoutMark_trim_of_framed (hframed : Framed text digits) (h : Hex.Spells digits b) :
    withoutMark (trim text) = digits := by
  obtain ⟨before, mark, after, rfl, hbefore, hafter, hmark⟩ := hframed
  rw [trim_around hbefore (ink_of_spells hmark h) hafter]
  rcases hmark with rfl | rfl
  · exact withoutMark_of_spells h
  · rfl

end Text

/-! ## Names in texts -/

namespace FixedBytes

variable {size : Nat} {what : String} {text : String} {name : FixedBytes size}

/-- The text is the name: two digits of either case for each of its bytes, in a frame. -/
def Writes (text : String) (name : FixedBytes size) : Prop :=
  ∃ digits, Text.Framed text.toList digits ∧ digits.length = 2 * size ∧
    Hex.Spells digits name.toBytes

theorem parse_ok_iff_decode :
    parse size what text = .ok name ↔
      Hex.decode (Text.toBytes (Text.lower (Text.withoutMark (Text.trim text.toList)))) =
        .ok name.toBytes := by
  unfold parse
  dsimp only
  split
  · rename_i fault hfault
    simp [hfault]
  · rename_i bytes hbytes
    rw [hbytes, Except.ok.injEq]
    split
    · rename_i other hother
      rw [ofBytes?_eq_some_iff] at hother
      rw [Except.ok.injEq, ← hother]
      exact ⟨congrArg toBytes, ext_toBytes⟩
    · rename_i hnone
      constructor
      · exact nofun
      · rintro rfl
        rw [ofBytes?_toBytes] at hnone
        cases hnone

/-- A name is read exactly from the texts that are that name. -/
theorem parse_ok_iff : parse size what text = .ok name ↔ Writes text name := by
  rw [parse_ok_iff_decode, Hex.decode_lower_ok_iff]
  constructor
  · intro h
    refine ⟨_, Text.framed_withoutMark_trim _, ?_, h⟩
    rw [h.length, name.length_eq]
  · rintro ⟨digits, hframed, _, h⟩
    rwa [Text.withoutMark_trim_of_framed hframed h]

/-- Whatever is refused has a bad row of digits or another number of bytes. -/
theorem parse_error {fault : InputFault} (h : parse size what text = .error fault) :
    (∃ digits, fault = .badHex what digits) ∨
      ∃ got, got ≠ size ∧ fault = .wrongLength what size got := by
  unfold parse at h
  dsimp only at h
  split at h
  · rename_i digits _
    cases h
    exact Or.inl ⟨digits, rfl⟩
  · rename_i bytes _
    split at h
    · cases h
    · rename_i hnone
      cases h
      refine Or.inr ⟨bytes.length, ?_, rfl⟩
      intro hlength
      simp [ofBytes?, hlength] at hnone

/-- The digits of a name, in any case of each, are that name in any frame. -/
theorem writes_of_toLower {digits : List Char} (hframed : Text.Framed text.toList digits)
    (hdigits : digits.map Char.toLower = Hex.encode name.toBytes) : Writes text name := by
  have h := Hex.spells_iff_toLower.2 hdigits
  refine ⟨digits, hframed, ?_, h⟩
  rw [h.length, name.length_eq]

/-- The digits alone are read as the name. -/
theorem parse_of_toLower (hdigits : text.toList.map Char.toLower = Hex.encode name.toBytes) :
    parse size what text = .ok name := by
  have hframed : Text.Framed text.toList text.toList :=
    ⟨[], [], [], by simp, nofun, nofun, Or.inl rfl⟩
  exact parse_ok_iff.2 (writes_of_toLower hframed hdigits)

end FixedBytes

/-! ## The grammar -/

/-- What a reader of names of `size` bytes makes of every text. -/
structure ReadsNames (size : Nat) (what : String)
    (parse : String → Except InputFault (FixedBytes size)) : Prop where
  /-- A text is read as a name exactly if it is that name. -/
  reads : ∀ text name, parse text = .ok name ↔ FixedBytes.Writes text name
  /-- A text that is no name is invalid input, for its digits or for their number. -/
  refuses : ∀ text, (∀ name : FixedBytes size, ¬ FixedBytes.Writes text name) →
    ∃ fault, parse text = .error fault ∧ (Error.input fault).kind = "InvalidInput" ∧
      ((∃ digits, fault = .badHex what digits) ∨
        ∃ got, got ≠ size ∧ fault = .wrongLength what size got)
  /-- The digits of a name are read back, in any case of each and in any frame. -/
  readsBack : ∀ text digits (name : FixedBytes size), Text.Framed text.toList digits →
    digits.map Char.toLower = Hex.encode name.toBytes → parse text = .ok name
  /-- So is what a name is shown as. -/
  readsShown : ∀ name, parse name.text = .ok name
  /-- What was read is shown as its own digits, in lower case and after the mark. -/
  shows : ∀ text name, parse text = .ok name →
    ∃ digits, Text.Framed text.toList digits ∧
      name.text = "0x" ++ String.ofList (digits.map Char.toLower)

theorem FixedBytes.readsNames (size : Nat) (what : String) :
    ReadsNames size what (FixedBytes.parse size what) where
  reads _ _ := FixedBytes.parse_ok_iff
  refuses text hnone := by
    cases h : FixedBytes.parse size what text with
    | ok name => exact absurd (FixedBytes.parse_ok_iff.1 h) (hnone name)
    | error fault => exact ⟨fault, rfl, rfl, FixedBytes.parse_error h⟩
  readsBack _ _ _ hframed hdigits :=
    FixedBytes.parse_ok_iff.2 (FixedBytes.writes_of_toLower hframed hdigits)
  readsShown name := by
    have hframed : Text.Framed name.text.toList (Hex.encode name.toBytes) := by
      refine ⟨[], ['0', 'x'], [], ?_, nofun, nofun, Or.inr rfl⟩
      simp [FixedBytes.text]
    exact FixedBytes.parse_ok_iff.2
      (FixedBytes.writes_of_toLower hframed (Hex.toLower_encode name.toBytes))
  shows text name h := by
    obtain ⟨digits, hframed, _, hspells⟩ := FixedBytes.parse_ok_iff.1 h
    refine ⟨digits, hframed, ?_⟩
    rw [Hex.spells_iff_toLower.1 hspells]
    rfl

/-- Ticket ids and addresses are read by their grammar from every text, and are shown so that
they are read back. -/
theorem names_are_read_by_their_grammar :
    ReadsNames 32 "ticket id" TicketId.parse ∧ ReadsNames 20 "address" Address.parse :=
  ⟨FixedBytes.readsNames 32 "ticket id", FixedBytes.readsNames 20 "address"⟩

/-- A mark in capitals is none, and it is put into lower case before it is refused. -/
example : Address.parse "0Xff" = .error (.badHex "address" (.badDigit 120 1)) := rfl

end RetryTickets
