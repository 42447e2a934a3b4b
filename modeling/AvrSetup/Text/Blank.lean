import AvrSetup.Text.CodeRange

/-!
# Blank characters and the words between them

Names, values and pin lists are written with blank characters around and between them.
A character is blank when it has the Unicode property `White_Space`. This file holds that
property and the ways in which a text is cut: into words (`words`), at bars (`alternatives`)
and at both ends (`trim`).
-/

namespace AvrSetup.Text

/-- The ranges of code points with the Unicode property `White_Space`. -/
def blankRanges : List CodeRange :=
  [(0x9, 0xD), (0x20, 0x20), (0x85, 0x85), (0xA0, 0xA0), (0x1680, 0x1680), (0x2000, 0x200A),
    (0x2028, 0x2029), (0x202F, 0x202F), (0x205F, 0x205F), (0x3000, 0x3000)]

/-- Whether a character is blank. -/
def isBlank (c : Char) : Bool := inRanges blankRanges c.toNat

/-- The text without the blanks at its start. -/
def trimStart (text : List Char) : List Char := text.dropWhile isBlank

/-- The text without the blanks at either end. -/
def trim (text : List Char) : List Char := (trimStart (trimStart text).reverse).reverse

/-- The longest runs of characters that are not blank, in order. -/
def words (text : List Char) : List (List Char) := (text.splitOnP isBlank).filter (· ≠ [])

/-- A string without the blanks at either end. -/
def trimmed (text : String) : String := .ofList (trim text.toList)

/-- The words of a string. -/
def wordsOf (text : String) : List String := (words text.toList).map .ofList

/-- The parts of a string between bars, each without the blanks around it. -/
def alternatives (text : List Char) : List String :=
  (text.splitOn '|').map fun piece => .ofList (trim piece)

/-! ## Blanks around a text -/

theorem trimStart_append {blanks text : List Char} (hblanks : ∀ c ∈ blanks, isBlank c = true) :
    trimStart (blanks ++ text) = trimStart text :=
  List.dropWhile_append_of_pos hblanks

theorem trimStart_of_not_blank {text : List Char} (h : ∀ c ∈ text.head?, isBlank c = false) :
    trimStart text = text := by
  cases text with
  | nil => rfl
  | cons c rest => exact List.dropWhile_cons_of_neg (by simpa using h)

/-- A text without blanks at its ends is what is left of it with blanks around. -/
theorem trim_padded {before text after : List Char} (hbefore : ∀ c ∈ before, isBlank c = true)
    (hafter : ∀ c ∈ after, isBlank c = true) (hne : text ≠ [])
    (htext : ∀ c ∈ text, isBlank c = false) : trim (before ++ text ++ after) = text := by
  have hfirst : ∀ c ∈ (text ++ after).head?, isBlank c = false := by
    cases text with
    | nil => exact absurd rfl hne
    | cons c rest => simpa using htext c List.mem_cons_self
  have hlast : ∀ c ∈ text.reverse.head?, isBlank c = false := by
    intro c hc
    exact htext c (List.mem_reverse.mp (List.mem_of_mem_head? hc))
  have hreversed : ∀ c ∈ after.reverse, isBlank c = true := by
    intro c hc
    exact hafter c (List.mem_reverse.mp hc)
  rw [trim, List.append_assoc, trimStart_append hbefore, trimStart_of_not_blank hfirst,
    List.reverse_append, trimStart_append hreversed, trimStart_of_not_blank hlast,
    List.reverse_reverse]

/-- What is left out at the start of a text is blank. -/
theorem exists_blanks_trimStart (text : List Char) :
    ∃ blanks, (∀ c ∈ blanks, isBlank c = true) ∧ text = blanks ++ trimStart text :=
  ⟨text.takeWhile isBlank, fun c hc => List.all_eq_true.mp List.all_takeWhile c hc,
    List.takeWhile_append_dropWhile.symm⟩

/-- What is left out at either end of a text is blank. -/
theorem exists_padding (text : List Char) :
    ∃ before after, (∀ c ∈ before, isBlank c = true) ∧ (∀ c ∈ after, isBlank c = true) ∧
      text = before ++ trim text ++ after := by
  obtain ⟨before, hbefore, hstart⟩ := exists_blanks_trimStart text
  obtain ⟨after, hafter, hend⟩ := exists_blanks_trimStart (trimStart text).reverse
  refine ⟨before, after.reverse, hbefore, fun c hc => hafter c (List.mem_reverse.mp hc), ?_⟩
  have hrest : trimStart text = trim text ++ after.reverse := by
    rw [trim, ← List.reverse_append, ← hend, List.reverse_reverse]
  rw [List.append_assoc, ← hrest]
  exact hstart

end AvrSetup.Text
