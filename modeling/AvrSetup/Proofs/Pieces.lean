import AvrSetup.Text.Blank

/-!
# Texts in pieces

A text is made of the pieces into which it is split at a character, with this character between
them, and of no others (`Text.isMadeOf_iff`). Blanks at the ends of a text do not matter when it is
trimmed, and neither do they for the texts between its bars (`Text.alternatives_trim`).
-/

namespace AvrSetup.Text

/-! ## Pieces of a text -/

/-- The characters of a piece are those of the text, other than the one that separates. -/
theorem of_mem_splitOn {c : Char} {text piece : List Char} (h : piece ∈ text.splitOn c) :
    ∀ other ∈ piece, other ∈ text ∧ other ≠ c := by
  induction text generalizing piece with
  | nil =>
    rw [List.mem_singleton.mp h]
    exact List.forall_mem_nil _
  | cons first text ih =>
    have hrest {piece : List Char} (hmem : piece ∈ text.splitOn c) :
        ∀ other ∈ piece, other ∈ first :: text ∧ other ≠ c := by
      intro other hother
      obtain ⟨htext, hpiece⟩ := ih hmem other hother
      exact ⟨List.mem_cons_of_mem first htext, hpiece⟩
    rw [List.splitOn_cons_eq_if_modifyHead] at h
    split at h
    · rcases List.mem_cons.mp h with rfl | hmem
      · exact List.forall_mem_nil _
      · exact hrest hmem
    · next hfirst =>
      obtain ⟨head, pieces, hsplit⟩ := List.exists_cons_of_ne_nil (List.splitOn_ne_nil c text)
      rw [hsplit] at h hrest
      rcases List.mem_cons.mp h with rfl | hmem
      · exact List.forall_mem_cons.mpr
          ⟨⟨List.mem_cons_self, mt beq_iff_eq.mpr hfirst⟩, hrest List.mem_cons_self⟩
      · exact hrest (List.mem_cons_of_mem head hmem)

/-- A text is made of some pieces, with a character between them that occurs in none of them. -/
structure IsMadeOf (text : List Char) (c : Char) (pieces : List (List Char)) : Prop where
  /-- There is at least one piece. -/
  ne_nil : pieces ≠ []
  /-- The character stands in none of the pieces. -/
  notMem : ∀ piece ∈ pieces, c ∉ piece
  /-- The character stands between the pieces. -/
  text_eq : text = [c].intercalate pieces

/-- A text is made of the pieces into which it is split, and of no others. -/
theorem isMadeOf_iff {text : List Char} {c : Char} {pieces : List (List Char)} :
    IsMadeOf text c pieces ↔ pieces = text.splitOn c := by
  constructor
  · rintro ⟨hne, hnotMem, rfl⟩
    exact (List.splitOn_intercalate c hnotMem hne).symm
  · rintro rfl
    refine ⟨List.splitOn_ne_nil c text, ?_, (List.intercalate_splitOn c).symm⟩
    intro piece hpiece hc
    exact (of_mem_splitOn hpiece c hc).2 rfl

/-- Between pieces there is nothing but the character that separates them. -/
theorem mem_intercalate {c other : Char} {pieces : List (List Char)}
    (h : other ∈ [c].intercalate pieces) : other = c ∨ ∃ piece ∈ pieces, other ∈ piece := by
  induction pieces with
  | nil => cases h
  | cons piece pieces ih =>
    cases pieces with
    | nil =>
      rw [List.intercalate_singleton] at h
      exact .inr ⟨piece, List.mem_singleton_self piece, h⟩
    | cons next pieces =>
      rw [List.intercalate_cons_cons, List.append_assoc, List.mem_append, List.mem_append,
        List.mem_singleton] at h
      rcases h with hpiece | hc | hrest
      · exact .inr ⟨piece, List.mem_cons_self, hpiece⟩
      · exact .inl hc
      · rcases ih hrest with hc | ⟨found, hfound, hmem⟩
        · exact .inl hc
        · exact .inr ⟨found, List.mem_cons_of_mem piece hfound, hmem⟩

/-- A text with some of its first piece before it has a longer first piece. -/
theorem exists_splitOn_append_left {c : Char} {before : List Char} (hbefore : c ∉ before)
    (text : List Char) :
    ∃ piece pieces, text.splitOn c = piece :: pieces ∧
      (before ++ text).splitOn c = (before ++ piece) :: pieces := by
  obtain ⟨piece, pieces, htext⟩ := List.exists_cons_of_ne_nil (List.splitOn_ne_nil c text)
  refine ⟨piece, pieces, htext, ?_⟩
  induction before with
  | nil => exact htext
  | cons first before ih =>
    obtain ⟨hfirst, hbefore⟩ := not_or.mp (mt List.mem_cons.mpr hbefore)
    rw [List.cons_append, List.splitOn_cons_eq_if_modifyHead, ih hbefore,
      if_neg (mt beq_iff_eq.mp (Ne.symm hfirst))]
    rfl

/-- A text with some of its last piece behind it has a longer last piece. -/
theorem exists_splitOn_append_right {c : Char} {after : List Char} (hafter : c ∉ after)
    (text : List Char) :
    ∃ pieces piece, text.splitOn c = pieces ++ [piece] ∧
      (text ++ after).splitOn c = pieces ++ [piece ++ after] := by
  induction text with
  | nil => exact ⟨[], [], rfl, List.splitOn_eq_singleton hafter⟩
  | cons first text ih =>
    obtain ⟨pieces, piece, htext, hboth⟩ := ih
    rw [List.cons_append, List.splitOn_cons_eq_if_modifyHead, List.splitOn_cons_eq_if_modifyHead,
      htext, hboth]
    split
    · exact ⟨[] :: pieces, piece, rfl, rfl⟩
    · cases pieces with
      | nil => exact ⟨[], first :: piece, rfl, rfl⟩
      | cons head pieces => exact ⟨(first :: head) :: pieces, piece, rfl, rfl⟩

/-! ## Blanks around a text -/

/-- Blanks at the ends of a text do not matter when it is trimmed. -/
theorem trim_padding {before text after : List Char} (hbefore : ∀ c ∈ before, isBlank c = true)
    (hafter : ∀ c ∈ after, isBlank c = true) : trim (before ++ text ++ after) = trim text := by
  have hreversed : ∀ c ∈ after.reverse, isBlank c = true := by
    intro c hc
    exact hafter c (List.mem_reverse.mp hc)
  have hend : trimStart (text ++ after) =
      if (trimStart text).isEmpty then trimStart after else trimStart text ++ after :=
    List.dropWhile_append
  rw [trim, trim, List.append_assoc, trimStart_append hbefore, hend]
  split
  · next hempty =>
    have hblank : trimStart after = [] := by
      simpa [trimStart] using @trimStart_append after [] hafter
    rw [hblank, List.isEmpty_iff.mp hempty]
  · rw [List.reverse_append, trimStart_append hreversed]

/-- A text that is trimmed has nothing left to trim. -/
theorem trim_trim (text : List Char) : trim (trim text) = trim text := by
  obtain ⟨before, after, hbefore, hafter, htext⟩ := exists_padding text
  rw [← trim_padding hbefore hafter, ← htext]

/-- Trimming leaves no character that was not there. -/
theorem mem_of_mem_trim {text : List Char} {c : Char} (h : c ∈ trim text) : c ∈ text := by
  obtain ⟨before, after, -, -, htext⟩ := exists_padding text
  rw [htext]
  exact List.mem_append_left _ (List.mem_append_right _ h)

/-! ## Texts between bars -/

/-- Blanks at the ends of a text do not matter for the texts between its bars. -/
theorem alternatives_padding {before text after : List Char}
    (hbefore : ∀ c ∈ before, isBlank c = true) (hafter : ∀ c ∈ after, isBlank c = true) :
    alternatives (before ++ text ++ after) = alternatives text := by
  have hbar : isBlank '|' ≠ true := by decide
  have hleft : alternatives (before ++ text) = alternatives text := by
    obtain ⟨piece, pieces, htext, hboth⟩ :=
      exists_splitOn_append_left (fun hmem => hbar (hbefore '|' hmem)) text
    have htrim : trim (before ++ piece) = trim piece := by
      simpa using @trim_padding before piece [] hbefore (List.forall_mem_nil _)
    rw [alternatives, alternatives, htext, hboth, List.map_cons, List.map_cons, htrim]
  obtain ⟨pieces, piece, htext, hboth⟩ :=
    exists_splitOn_append_right (fun hmem => hbar (hafter '|' hmem)) (before ++ text)
  have htrim : trim (piece ++ after) = trim piece := by
    simpa using @trim_padding [] piece after (List.forall_mem_nil _) hafter
  rw [← hleft, alternatives, alternatives, htext, hboth, List.map_append, List.map_append,
    List.map_singleton, List.map_singleton, htrim]

/-- The texts between the bars of a text are the same when it is trimmed. -/
theorem alternatives_trim (text : List Char) : alternatives (trim text) = alternatives text := by
  obtain ⟨before, after, hbefore, hafter, htext⟩ := exists_padding text
  rw [← alternatives_padding hbefore hafter, ← htext]

end AvrSetup.Text
