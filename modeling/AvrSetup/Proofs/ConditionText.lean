import AvrSetup.Condition.Reader
import AvrSetup.Proofs.Pieces
import AvrSetup.Proofs.Success
import Mathlib.Data.List.Forall2

/-!
# Conditions are read as they are written

A condition is written clause by clause, with semicolons between the clauses, and a clause that
compares a setting has its values behind the operator, with bars between them. Blanks may stand
everywhere except inside of keys, operators and values. This file shows that reading is the inverse
of that (`Condition.parse_eq_ok_iff`), that a condition which is read can be written without
blanks (`Condition.parse_ofClauses`), and what the semicolon and the exclamation mark stand for:
the conjunction and the negation.
-/

namespace AvrSetup

open Text

/-! ## Keys at the start of a text -/

namespace Text

/-- What is split off is an identifier, and the rest is what stands behind it. -/
theorem eq_of_identifier? {text name rest : List Char} (h : identifier? text = some (name, rest)) :
    isIdentifier name = true ∧ text = name ++ rest := by
  cases text with
  | nil => cases h
  | cons c text =>
    rw [identifier?] at h
    split at h
    · next hstart =>
      cases h
      refine ⟨?_, ?_⟩
      · rw [isIdentifier, hstart, List.all_takeWhile, Bool.and_self]
      · rw [List.cons_append, List.takeWhile_append_dropWhile]
    · cases h

/-- An identifier is split off if none of its letters could follow. -/
theorem identifier?_append {name rest : List Char} (hname : isIdentifier name = true)
    (hrest : ∀ c ∈ rest.head?, isIdentifierPart c = false) :
    identifier? (name ++ rest) = some (name, rest) := by
  cases name with
  | nil => cases hname
  | cons c name =>
    obtain ⟨hstart, hparts⟩ := (Bool.and_eq_true _ _).mp hname
    have hall : ∀ c ∈ name, isIdentifierPart c = true := List.all_eq_true.mp hparts
    have hnone : rest.takeWhile isIdentifierPart = [] ∧ rest.dropWhile isIdentifierPart = rest := by
      cases rest with
      | nil => exact ⟨rfl, rfl⟩
      | cons c rest => simp [hrest c rfl]
    rw [List.cons_append, identifier?, if_pos hstart, List.takeWhile_append_of_pos hall,
      List.dropWhile_append_of_pos hall, hnone.1, hnone.2, List.append_nil]

/-- An identifier has a first letter. -/
theorem ne_nil_of_isIdentifier {name : List Char} (h : isIdentifier name = true) : name ≠ [] := by
  rintro rfl
  cases h

end Text

namespace Clause

/-! ## Spellings -/

/-- A text names a key. Blanks around it do not matter. -/
structure Names (key : String) (written : List Char) : Prop where
  /-- Keys are identifiers. -/
  isIdentifier : isIdentifier key.toList = true
  /-- The key stands between blanks. -/
  padded : ∃ before after, (∀ c ∈ before, isBlank c = true) ∧ (∀ c ∈ after, isBlank c = true) ∧
    written = before ++ key.toList ++ after

/-- A text lists some values, with bars between them. Blanks around a value do not matter. -/
structure Lists (values : List String) (written : List Char) : Prop where
  /-- Bars stand between the values and nowhere else. -/
  pieces : ∃ pieces, IsMadeOf written '|' pieces ∧
    values = pieces.map fun piece => String.ofList (trim piece)
  /-- No value is empty. -/
  ne_empty : ∀ value ∈ values, value ≠ ""
  /-- From the first value to the last, the text is one line. -/
  one_line : '\n' ∉ trim written

/-- A text spells a clause: a key, alone or behind an exclamation mark, or a key, an operator and
some values. -/
def IsWrittenAs : Clause → List Char → Prop
  | isSet key, written => Names key written
  | isUnset key, written => ∃ before rest, (∀ c ∈ before, isBlank c = true) ∧
      written = before ++ '!' :: rest ∧ Names key rest
  | anyOf key values, written => ∃ left right, written = left ++ '=' :: right ∧ Names key left ∧
      Lists values right
  | noneOf key values, written => ∃ left right, written = left ++ '!' :: '=' :: right ∧
      Names key left ∧ Lists values right

/-! ## Values -/

/-- A list of values is read exactly if a text lists them. -/
theorem values?_eq_some_iff {text : List Char} {values : List String} :
    values? text = some values ↔ Lists values text := by
  have hread : values? text = some values ↔
      '\n' ∉ trim text ∧ "" ∉ alternatives text ∧ values = alternatives text := by
    simp only [values?, alternatives_trim, List.contains_iff_mem]
    split
    · next hbad => exact ⟨nofun, fun h => absurd hbad (not_or.mpr ⟨h.1, h.2.1⟩)⟩
    · next hgood =>
      obtain ⟨hline, hempty⟩ := not_or.mp hgood
      rw [Option.some.injEq, eq_comm, and_iff_right hline, and_iff_right hempty]
  rw [hread]
  constructor
  · rintro ⟨hline, hempty, rfl⟩
    refine ⟨⟨_, isMadeOf_iff.mpr rfl, rfl⟩, ?_, hline⟩
    rintro value hvalue rfl
    exact hempty hvalue
  · rintro ⟨⟨pieces, hpieces, rfl⟩, hempty, hline⟩
    obtain rfl := isMadeOf_iff.mp hpieces
    exact ⟨hline, fun h => hempty "" h rfl, rfl⟩

/-! ## Clauses -/

/-- Blanks before a key do not matter. -/
theorem Names.append_blanks {key : String} {blanks written : List Char} (h : Names key written)
    (hblanks : ∀ c ∈ blanks, isBlank c = true) : Names key (blanks ++ written) := by
  obtain ⟨hkey, before, after, hbefore, hafter, rfl⟩ := h
  refine ⟨hkey, blanks ++ before, after, ?_, hafter, ?_⟩
  · exact List.forall_mem_append.mpr ⟨hblanks, hbefore⟩
  · rw [List.append_assoc blanks, List.append_assoc blanks]

/-- A key that is named is split off, if what stands behind its blanks cannot belong to either. -/
theorem Names.identifier?_eq {key : String} {left right : List Char} (h : Names key left)
    (hright : ∀ c ∈ right.head?, isBlank c = false ∧ isIdentifierPart c = false) :
    ∃ behind, identifier? (trimStart (left ++ right)) = some (key.toList, behind) ∧
      trimStart behind = right := by
  obtain ⟨hkey, before, after, hbefore, hafter, rfl⟩ := h
  have hparts := isIdentifierPart_of_isIdentifier hkey
  have hstart : ∀ c ∈ (key.toList ++ (after ++ right)).head?, isBlank c = false := by
    intro c hc
    obtain ⟨first, name, hname⟩ := List.exists_cons_of_ne_nil (ne_nil_of_isIdentifier hkey)
    rw [hname] at hc hparts
    obtain rfl : first = c := Option.some.inj hc
    exact isBlank_of_isIdentifierPart (hparts first List.mem_cons_self)
  have hbehind : ∀ c ∈ (after ++ right).head?, isIdentifierPart c = false := by
    intro c hc
    cases after with
    | nil => exact (hright c hc).2
    | cons blank after =>
      obtain rfl : blank = c := Option.some.inj hc
      have hblank := hafter blank List.mem_cons_self
      rw [Bool.eq_false_iff]
      intro hpart
      rw [isBlank_of_isIdentifierPart hpart] at hblank
      cases hblank
  refine ⟨after ++ right, ?_, ?_⟩
  · rw [List.append_assoc, List.append_assoc, trimStart_append hbefore,
      trimStart_of_not_blank hstart, identifier?_append hkey hbehind]
  · rw [trimStart_append hafter, trimStart_of_not_blank fun c hc => (hright c hc).1]

/-- A key that is split off is named by the text up to what stands behind its blanks. -/
theorem names_of_identifier? {text key behind : List Char}
    (h : identifier? (trimStart text) = some (key, behind)) :
    ∃ left, Names (.ofList key) left ∧ text = left ++ trimStart behind := by
  obtain ⟨hkey, hsplit⟩ := eq_of_identifier? h
  obtain ⟨before, hbefore, htext⟩ := exists_blanks_trimStart text
  obtain ⟨after, hafter, hbehind⟩ := exists_blanks_trimStart behind
  refine ⟨before ++ key ++ after, ⟨?_, before, after, hbefore, hafter, ?_⟩, ?_⟩
  · rwa [String.toList_ofList]
  · rw [String.toList_ofList]
  · rw [htext, hsplit, List.append_assoc, List.append_assoc, ← hbehind]

/-- A text that starts with a key starts neither with an exclamation mark nor with a blank. -/
theorem negation_of_identifier? {text : List Char} {found : List Char × List Char}
    (h : identifier? text = some found) :
    negation text = (false, text) ∧ trimStart text = text := by
  cases text with
  | nil => cases h
  | cons c text =>
    rw [identifier?] at h
    split at h
    · next hstart =>
      have hname : isIdentifier [c] = true := by rw [isIdentifier, hstart]; rfl
      have hpart := isIdentifierPart_of_isIdentifier hname c (List.mem_singleton_self c)
      refine ⟨?_, trimStart_of_not_blank ?_⟩
      · rw [negation]
        rintro rest ⟨⟩
        exact absurd hstart (by decide)
      · rintro _ ⟨⟩
        exact isBlank_of_isIdentifierPart hpart
    · cases h

/-- A text starts with an exclamation mark or not. -/
theorem negation_cases (text : List Char) :
    negation text = (false, text) ∨ ∃ rest, text = '!' :: rest ∧ negation text = (true, rest) := by
  unfold negation
  split
  · exact .inr ⟨_, rfl, rfl⟩
  · exact .inl rfl

/-- Behind a key with an exclamation mark there is nothing. -/
theorem ofParts?_true_eq_some_iff {key : String} {text : List Char} {clause : Clause} :
    ofParts? true key text = some clause ↔ text = [] ∧ clause = isUnset key := by
  cases text with
  | nil => simp [ofParts?, eq_comm]
  | cons c text => simp [ofParts?]

/-- Behind a key alone there is nothing, or an operator with values. -/
theorem ofParts?_false_eq_some_iff {key : String} {text : List Char} {clause : Clause} :
    ofParts? false key text = some clause ↔
      (text = [] ∧ clause = isSet key) ∨ ∃ right values, Lists values right ∧
        ((text = '=' :: right ∧ clause = anyOf key values) ∨
          (text = '!' :: '=' :: right ∧ clause = noneOf key values)) := by
  constructor
  · intro h
    unfold ofParts? at h
    split at h
    · cases h
      exact .inl ⟨rfl, rfl⟩
    · next hfalse => cases hfalse
    · next right _ =>
      obtain ⟨values, hvalues, rfl⟩ := Option.map_eq_some_iff.mp h
      exact .inr ⟨right, values, values?_eq_some_iff.mp hvalues, .inl ⟨rfl, rfl⟩⟩
    · next right _ =>
      obtain ⟨values, hvalues, rfl⟩ := Option.map_eq_some_iff.mp h
      exact .inr ⟨right, values, values?_eq_some_iff.mp hvalues, .inr ⟨rfl, rfl⟩⟩
    · cases h
  · rintro (⟨rfl, rfl⟩ | ⟨right, values, hvalues, ⟨rfl, rfl⟩ | ⟨rfl, rfl⟩⟩)
    · rfl
    · rw [ofParts?, values?_eq_some_iff.mpr hvalues, Option.map_some]
    · rw [ofParts?, values?_eq_some_iff.mpr hvalues, Option.map_some]

/-- A clause is read from its key and from what stands before and behind it. -/
theorem parse?_eq_some_iff_parts {text : List Char} {clause : Clause} :
    parse? text = some clause ↔ ∃ key behind,
      identifier? (trimStart (negation (trimStart text)).2) = some (key, behind) ∧
        ofParts? (negation (trimStart text)).1 (.ofList key) (trimStart behind) = some clause := by
  simp [parse?, Option.bind_eq_some_iff]

/-- A text that names a key and goes on behind it is read by what stands there. -/
theorem Names.parse?_append {key : String} {left right : List Char} (h : Names key left)
    (hright : ∀ c ∈ right.head?, isBlank c = false ∧ isIdentifierPart c = false) :
    parse? (left ++ right) = ofParts? false key right := by
  obtain ⟨behind, hkey, hbehind⟩ := h.identifier?_eq hright
  obtain ⟨hplain, hstart⟩ := negation_of_identifier? hkey
  ext clause
  rw [parse?_eq_some_iff_parts]
  simp only [hplain, hstart, hkey]
  constructor
  · rintro ⟨_, _, ⟨⟩, hparts⟩
    rwa [String.ofList_toList, hbehind] at hparts
  · intro hparts
    refine ⟨key.toList, behind, rfl, ?_⟩
    rwa [String.ofList_toList, hbehind]

/-- A key alone asks whether the setting is set. -/
theorem Names.parse?_eq {key : String} {written : List Char} (h : Names key written) :
    parse? written = some (isSet key) := by
  have hread : parse? (written ++ []) = ofParts? false key [] :=
    h.parse?_append fun c hc => by cases hc
  rwa [List.append_nil] at hread

/-- Behind a key and an equals sign, values are read. -/
theorem Names.parse?_equal {key : String} {left : List Char} (h : Names key left)
    (right : List Char) : parse? (left ++ '=' :: right) = (values? right).map (anyOf key) := by
  refine h.parse?_append fun c hc => ?_
  obtain rfl : '=' = c := Option.some.inj hc
  decide

/-- Behind a key, an exclamation mark and an equals sign, values are read too. -/
theorem Names.parse?_different {key : String} {left : List Char} (h : Names key left)
    (right : List Char) :
    parse? (left ++ '!' :: '=' :: right) = (values? right).map (noneOf key) := by
  refine h.parse?_append fun c hc => ?_
  obtain rfl : '!' = c := Option.some.inj hc
  decide

/-- An exclamation mark before a key asks whether the setting is not set. -/
theorem Names.parse?_exclamation {key : String} {before rest : List Char} (h : Names key rest)
    (hbefore : ∀ c ∈ before, isBlank c = true) :
    parse? (before ++ '!' :: rest) = some (isUnset key) := by
  have hmark : trimStart (before ++ '!' :: rest) = '!' :: rest := by
    rw [trimStart_append hbefore, trimStart_of_not_blank]
    rintro _ ⟨⟩
    decide
  obtain ⟨behind, hkey, hbehind⟩ := @Names.identifier?_eq key rest [] h fun c hc => by cases hc
  rw [List.append_nil] at hkey
  refine parse?_eq_some_iff_parts.mpr ⟨key.toList, behind, ?_, ?_⟩
  · rwa [hmark, negation]
  · rw [hmark, negation, hbehind, String.ofList_toList]
    rfl

/-- A clause is read exactly if a text spells it. -/
theorem parse?_eq_some_iff {text : List Char} {clause : Clause} :
    parse? text = some clause ↔ clause.IsWrittenAs text := by
  constructor
  · intro h
    obtain ⟨key, behind, hkey, hparts⟩ := parse?_eq_some_iff_parts.mp h
    obtain ⟨blanks, hblanks, htext⟩ := exists_blanks_trimStart text
    rcases negation_cases (trimStart text) with hplain | ⟨rest, hmark, hnegated⟩
    · simp only [hplain] at hkey hparts
      obtain ⟨left, hleft, hsplit⟩ := names_of_identifier? hkey
      have hnames := hleft.append_blanks hblanks
      rw [hsplit, ← List.append_assoc] at htext
      rcases ofParts?_false_eq_some_iff.mp hparts with
        ⟨hright, rfl⟩ | ⟨right, values, hvalues, ⟨hright, rfl⟩ | ⟨hright, rfl⟩⟩
      · rw [htext, hright, List.append_nil]
        exact hnames
      · exact ⟨_, right, by rw [htext, hright], hnames, hvalues⟩
      · exact ⟨_, right, by rw [htext, hright], hnames, hvalues⟩
    · simp only [hnegated] at hkey hparts
      obtain ⟨left, hleft, hsplit⟩ := names_of_identifier? hkey
      obtain ⟨hright, rfl⟩ := ofParts?_true_eq_some_iff.mp hparts
      rw [hright, List.append_nil] at hsplit
      exact ⟨blanks, rest, hblanks, by rw [htext, hmark], hsplit ▸ hleft⟩
  · intro h
    cases clause with
    | isSet key => exact h.parse?_eq
    | isUnset key =>
      obtain ⟨before, rest, hbefore, rfl, hrest⟩ := h
      exact hrest.parse?_exclamation hbefore
    | anyOf key values =>
      obtain ⟨left, right, rfl, hleft, hvalues⟩ := h
      rw [hleft.parse?_equal, values?_eq_some_iff.mpr hvalues, Option.map_some]
    | noneOf key values =>
      obtain ⟨left, right, rfl, hleft, hvalues⟩ := h
      rw [hleft.parse?_different, values?_eq_some_iff.mpr hvalues, Option.map_some]

/-! ## Clauses without blanks -/

/-- A value can be written as it is, between bars and semicolons. -/
structure IsPlain (value : String) : Prop where
  /-- The value is not empty. -/
  ne_empty : value ≠ ""
  /-- No blanks stand at the ends of the value. -/
  trim_eq : trim value.toList = value.toList
  /-- No character of the value has a meaning of its own. -/
  notMem : '|' ∉ value.toList ∧ ';' ∉ value.toList ∧ '\n' ∉ value.toList

/-- A clause can be written: its key is an identifier, and its values can be told apart. -/
def IsWritable : Clause → Prop
  | isSet key => isIdentifier key.toList = true
  | isUnset key => isIdentifier key.toList = true
  | anyOf key values =>
    isIdentifier key.toList = true ∧ values ≠ [] ∧ ∀ value ∈ values, IsPlain value
  | noneOf key values =>
    isIdentifier key.toList = true ∧ values ≠ [] ∧ ∀ value ∈ values, IsPlain value

/-- Values in a text without semicolons can be written again. -/
theorem Lists.isPlain {values : List String} {written : List Char} (h : Lists values written)
    (hwritten : ';' ∉ written) : values ≠ [] ∧ ∀ value ∈ values, IsPlain value := by
  obtain ⟨⟨pieces, hpieces, hvalues⟩, hempty, hline⟩ := h
  refine ⟨?_, ?_⟩
  · rw [hvalues]
    exact List.map_eq_nil_iff.not.mpr hpieces.ne_nil
  · intro value hvalue
    have htrimmed : value ∈ alternatives (trim written) := by
      rwa [alternatives_trim, alternatives, ← isMadeOf_iff.mp hpieces, ← hvalues]
    obtain ⟨piece, hpiece, rfl⟩ := List.mem_map.mp htrimmed
    have hmem : ∀ c ∈ trim piece, c ∈ trim written ∧ c ≠ '|' :=
      fun c hc => of_mem_splitOn hpiece c (mem_of_mem_trim hc)
    refine ⟨hempty _ hvalue, ?_, ?_⟩
    · rw [String.toList_ofList, trim_trim]
    · rw [String.toList_ofList]
      refine ⟨fun hc => (hmem '|' hc).2 rfl, fun hc => ?_, fun hc => ?_⟩
      · exact hwritten (mem_of_mem_trim (hmem ';' hc).1)
      · exact hline (hmem '\n' hc).1

/-- A text without semicolons spells a clause that can be written. -/
theorem IsWrittenAs.isWritable {clause : Clause} {written : List Char}
    (h : clause.IsWrittenAs written) (hwritten : ';' ∉ written) : clause.IsWritable := by
  cases clause with
  | isSet key => exact h.isIdentifier
  | isUnset key =>
    obtain ⟨before, rest, -, -, hrest⟩ := h
    exact hrest.isIdentifier
  | anyOf key values =>
    obtain ⟨left, right, rfl, hleft, hvalues⟩ := h
    refine ⟨hleft.isIdentifier, hvalues.isPlain fun hc => hwritten ?_⟩
    exact List.mem_append_right _ (List.mem_cons_of_mem _ hc)
  | noneOf key values =>
    obtain ⟨left, right, rfl, hleft, hvalues⟩ := h
    refine ⟨hleft.isIdentifier, hvalues.isPlain fun hc => hwritten ?_⟩
    exact List.mem_append_right _ (List.mem_cons_of_mem _ (List.mem_cons_of_mem _ hc))

/-- Plain values with bars between them are listed by their text, which has no semicolon. -/
theorem lists_intercalate {values : List String} (hne : values ≠ [])
    (hplain : ∀ value ∈ values, IsPlain value) :
    Lists values (String.intercalate "|" values).toList ∧
      ';' ∉ (String.intercalate "|" values).toList := by
  rw [String.toList_intercalate]
  have hother {c : Char} (hbar : c ≠ '|') (hc : ∀ value ∈ values, c ∉ value.toList) :
      c ∉ "|".toList.intercalate (values.map String.toList) := by
    intro hmem
    rcases mem_intercalate hmem with heq | ⟨piece, hpiece, hcpiece⟩
    · exact hbar heq
    · obtain ⟨value, hvalue, rfl⟩ := List.mem_map.mp hpiece
      exact hc value hvalue hcpiece
  refine ⟨⟨⟨values.map String.toList, ⟨?_, ?_, rfl⟩, ?_⟩, ?_, ?_⟩, ?_⟩
  · exact List.map_eq_nil_iff.not.mpr hne
  · intro piece hpiece
    obtain ⟨value, hvalue, rfl⟩ := List.mem_map.mp hpiece
    exact (hplain value hvalue).notMem.1
  · have hsame : ∀ value ∈ values, String.ofList (trim value.toList) = id value := by
      intro value hvalue
      rw [(hplain value hvalue).trim_eq, String.ofList_toList, id]
    rw [List.map_map]
    exact ((List.map_congr_left hsame).trans (List.map_id values)).symm
  · exact fun value hvalue => (hplain value hvalue).ne_empty
  · exact fun hmem => hother (by decide) (fun value hvalue => (hplain value hvalue).notMem.2.2)
      (mem_of_mem_trim hmem)
  · exact hother (by decide) fun value hvalue => (hplain value hvalue).notMem.2.1

/-- A clause that can be written is spelled by its own text, which has no semicolon. -/
theorem IsWritable.isWrittenAs_source {clause : Clause} (h : clause.IsWritable) :
    clause.IsWrittenAs clause.source.toList ∧ ';' ∉ clause.source.toList := by
  have hnames {key : String} (hkey : isIdentifier key.toList = true) :
      Names key key.toList ∧ ';' ∉ key.toList := by
    refine ⟨⟨hkey, [], [], List.forall_mem_nil _, List.forall_mem_nil _, by simp⟩, fun hc => ?_⟩
    exact absurd (isIdentifierPart_of_isIdentifier hkey ';' hc) (by decide)
  cases clause with
  | isSet key => exact hnames h
  | isUnset key =>
    obtain ⟨hkey, hplain⟩ := hnames h
    rw [source, String.toList_append]
    refine ⟨⟨[], key.toList, List.forall_mem_nil _, rfl, hkey⟩, ?_⟩
    rw [List.mem_append, not_or]
    exact ⟨by decide, hplain⟩
  | anyOf key values =>
    obtain ⟨hkey, hplain⟩ := hnames h.1
    obtain ⟨hlists, hvalues⟩ := lists_intercalate h.2.1 h.2.2
    rw [source, String.toList_append, String.toList_append]
    refine ⟨⟨key.toList, _, by simp, hkey, hlists⟩, ?_⟩
    rw [List.mem_append, List.mem_append, not_or, not_or]
    exact ⟨⟨hplain, by decide⟩, hvalues⟩
  | noneOf key values =>
    obtain ⟨hkey, hplain⟩ := hnames h.1
    obtain ⟨hlists, hvalues⟩ := lists_intercalate h.2.1 h.2.2
    rw [source, String.toList_append, String.toList_append]
    refine ⟨⟨key.toList, _, by simp, hkey, hlists⟩, ?_⟩
    rw [List.mem_append, List.mem_append, not_or, not_or]
    exact ⟨⟨hplain, by decide⟩, hvalues⟩

end Clause

/-! ## Conditions -/

/-- A step for each member of a list succeeds if all of them do, with their results in order. -/
theorem mapM_eq_ok_iff_forall₂ {ε α β : Type} {f : α → Except ε β} {list : List α}
    {results : List β} : list.mapM f = .ok results ↔
      List.Forall₂ (fun result member => f member = .ok result) results list := by
  induction list generalizing results with
  | nil => simp [pure, Except.pure, eq_comm]
  | cons head rest ih =>
    simp only [List.mapM_cons, bind_eq_ok_iff, ih, List.forall₂_cons_right_iff]
    constructor
    · rintro ⟨first, hfirst, others, hothers, heq⟩
      cases heq
      exact ⟨first, others, hfirst, hothers, rfl⟩
    · rintro ⟨first, others, hfirst, hothers, rfl⟩
      exact ⟨first, hfirst, others, hothers, rfl⟩

namespace Condition

/-- A text spells some clauses, with semicolons between them. -/
def IsWrittenAs (clauses : List Clause) (written : List Char) : Prop :=
  ∃ pieces, IsMadeOf written ';' pieces ∧ List.Forall₂ Clause.IsWrittenAs clauses pieces

/-- A text spells the clauses that its pieces spell. -/
theorem isWrittenAs_iff {clauses : List Clause} {written : List Char} :
    IsWrittenAs clauses written ↔
      List.Forall₂ Clause.IsWrittenAs clauses (written.splitOn ';') := by
  constructor
  · rintro ⟨pieces, hpieces, hclauses⟩
    rwa [← isMadeOf_iff.mp hpieces]
  · intro h
    exact ⟨_, isMadeOf_iff.mpr rfl, h⟩

/-- A text is read as some clauses exactly if it spells them. -/
theorem parse_eq_ok_iff {source : String} {condition : Condition} :
    parse source = .ok condition ↔
      condition.source = source ∧ IsWrittenAs condition.clauses source.toList := by
  simp only [parse, bind_eq_ok_iff, mapM_eq_ok_iff_forall₂, isWrittenAs_iff]
  constructor
  · rintro ⟨clauses, hclauses, heq⟩
    cases heq
    refine ⟨rfl, hclauses.imp fun clause piece hread => ?_⟩
    split at hread
    · next hclause =>
      cases hread
      exact Clause.parse?_eq_some_iff.mp hclause
    · cases hread
  · rintro ⟨hsource, hclauses⟩
    refine ⟨condition.clauses, hclauses.imp fun clause piece hclause => ?_, ?_⟩
    · rw [Clause.parse?_eq_some_iff.mpr hclause]
    · rw [← hsource]
      rfl

/-- Pieces without semicolons spell clauses that can be written. -/
theorem isWritable_of_forall₂ {clauses : List Clause} {pieces : List (List Char)}
    (h : List.Forall₂ Clause.IsWrittenAs clauses pieces) (hpieces : ∀ piece ∈ pieces, ';' ∉ piece) :
    ∀ clause ∈ clauses, clause.IsWritable := by
  induction h with
  | nil => exact List.forall_mem_nil _
  | cons hclause _ ih =>
    obtain ⟨hpiece, hpieces⟩ := List.forall_mem_cons.mp hpieces
    exact List.forall_mem_cons.mpr ⟨hclause.isWritable hpiece, ih hpieces⟩

/-- The clauses of a condition that is read can be written, and there is at least one. -/
theorem isWritable_of_parse {source : String} {condition : Condition}
    (h : parse source = .ok condition) :
    condition.clauses ≠ [] ∧ ∀ clause ∈ condition.clauses, clause.IsWritable := by
  obtain ⟨-, pieces, hpieces, hclauses⟩ := parse_eq_ok_iff.mp h
  refine ⟨?_, isWritable_of_forall₂ hclauses hpieces.notMem⟩
  intro hnil
  rw [hnil] at hclauses
  exact hpieces.ne_nil (List.forall₂_nil_left_iff.mp hclauses)

/-- What is written for some clauses is read as them, if they can be written. -/
theorem parse_ofClauses {clauses : List Clause} :
    parse (ofClauses clauses).source = .ok (ofClauses clauses) ↔
      clauses ≠ [] ∧ ∀ clause ∈ clauses, clause.IsWritable := by
  constructor
  · exact isWritable_of_parse
  · rintro ⟨hne, hclauses⟩
    refine parse_eq_ok_iff.mpr ⟨rfl, clauses.map fun clause => clause.source.toList,
      ⟨?_, ?_, ?_⟩, ?_⟩
    · exact List.map_eq_nil_iff.not.mpr hne
    · intro piece hpiece
      obtain ⟨clause, hclause, rfl⟩ := List.mem_map.mp hpiece
      exact (hclauses clause hclause).isWrittenAs_source.2
    · rw [ofClauses, String.toList_intercalate, List.map_map]
      rfl
    · rw [List.forall₂_map_right_iff]
      refine List.forall₂_same.mpr fun clause hclause => ?_
      exact (hclauses clause hclause).isWrittenAs_source.1

/-! ## Semicolons and exclamation marks -/

/-- A text spells clauses on both sides of a semicolon exactly if each side spells some of them. -/
theorem isWrittenAs_append_iff {clauses : List Clause} {left right : List Char} :
    IsWrittenAs clauses (left ++ ';' :: right) ↔ ∃ first second,
      IsWrittenAs first left ∧ IsWrittenAs second right ∧ clauses = first ++ second := by
  simp only [isWrittenAs_iff, List.splitOn_append_cons_self]
  constructor
  · intro h
    refine ⟨_, _, List.forall₂_take_append _ _ _ h, List.forall₂_drop_append _ _ _ h, ?_⟩
    rw [List.take_append_drop]
  · rintro ⟨first, second, hfirst, hsecond, rfl⟩
    exact List.rel_append hfirst hsecond

/-- A text with a semicolon is read if both sides are, with the clauses of both. -/
theorem parse_semicolon_eq_ok_iff {left right : String} {condition : Condition} :
    parse (left ++ ";" ++ right) = .ok condition ↔ ∃ first second,
      parse left = .ok first ∧ parse right = .ok second ∧
        condition = ⟨left ++ ";" ++ right, first.clauses ++ second.clauses⟩ := by
  have htext : (left ++ ";" ++ right).toList = left.toList ++ ';' :: right.toList := by simp
  simp only [parse_eq_ok_iff, htext, isWrittenAs_append_iff]
  constructor
  · rintro ⟨hsource, first, second, hfirst, hsecond, hclauses⟩
    refine ⟨⟨left, first⟩, ⟨right, second⟩, ⟨rfl, hfirst⟩, ⟨rfl, hsecond⟩, ?_⟩
    rw [← hsource, ← hclauses]
  · rintro ⟨first, second, ⟨-, hfirst⟩, ⟨-, hsecond⟩, rfl⟩
    exact ⟨rfl, first.clauses, second.clauses, hfirst, hsecond, rfl⟩

/-- A text without semicolons is read as the one clause that it spells. -/
theorem parse_eq_ok_iff_of_notMem {source : String} (h : ';' ∉ source.toList)
    {condition : Condition} : parse source = .ok condition ↔
      ∃ clause : Clause, clause.IsWrittenAs source.toList ∧ condition = ⟨source, [clause]⟩ := by
  rw [parse_eq_ok_iff, isWrittenAs_iff, List.splitOn_eq_singleton h]
  constructor
  · rintro ⟨rfl, hclauses⟩
    obtain ⟨clause, others, hclause, hothers, heq⟩ := List.forall₂_cons_right_iff.mp hclauses
    rw [List.forall₂_nil_right_iff.mp hothers] at heq
    exact ⟨clause, hclause, by rw [← heq]⟩
  · rintro ⟨clause, hclause, rfl⟩
    exact ⟨rfl, .cons hclause .nil⟩

/-- A text with a semicolon is read exactly if both sides are. It then stands for the conjunction
of both. -/
theorem parse_semicolon (left right : String) :
    ((∃ both, parse (left ++ ";" ++ right) = .ok both) ↔
      (∃ first, parse left = .ok first) ∧ ∃ second, parse right = .ok second) ∧
    ∀ both first second, parse (left ++ ";" ++ right) = .ok both → parse left = .ok first →
      parse right = .ok second →
        ∀ settings, both.holds settings = (first.holds settings && second.holds settings) := by
  refine ⟨⟨?_, ?_⟩, ?_⟩
  · rintro ⟨both, hboth⟩
    obtain ⟨first, second, hfirst, hsecond, -⟩ := parse_semicolon_eq_ok_iff.mp hboth
    exact ⟨⟨first, hfirst⟩, second, hsecond⟩
  · rintro ⟨⟨first, hfirst⟩, second, hsecond⟩
    exact ⟨_, parse_semicolon_eq_ok_iff.mpr ⟨first, second, hfirst, hsecond, rfl⟩⟩
  · intro both first second hboth hfirst hsecond settings
    obtain ⟨first', second', hfirst', hsecond', rfl⟩ := parse_semicolon_eq_ok_iff.mp hboth
    rw [hfirst] at hfirst'
    rw [hsecond] at hsecond'
    cases hfirst'
    cases hsecond'
    exact List.all_append

/-- A text that names a key has no semicolon. -/
theorem notMem_of_names {key : String} {written : List Char} (h : Clause.Names key written) :
    ';' ∉ written := by
  obtain ⟨hkey, before, after, hbefore, hafter, rfl⟩ := h
  simp only [List.mem_append, not_or]
  refine ⟨⟨fun hc => ?_, fun hc => ?_⟩, fun hc => ?_⟩
  · exact absurd (hbefore ';' hc) (by decide)
  · exact absurd (isIdentifierPart_of_isIdentifier hkey ';' hc) (by decide)
  · exact absurd (hafter ';' hc) (by decide)

/-- A key with an operator and a text behind it is read if the text lists values. -/
theorem parse_operator_eq_ok_iff {key left operator list : String} {clause : List String → Clause}
    (hleft : Clause.Names key left.toList) (hoperator : ';' ∉ operator.toList)
    (hlist : ';' ∉ list.toList)
    (hparse : Clause.parse? (left.toList ++ (operator.toList ++ list.toList)) =
      (Clause.values? list.toList).map clause) {condition : Condition} :
    parse (left ++ operator ++ list) = .ok condition ↔
      ∃ values, Clause.values? list.toList = some values ∧
        condition = ⟨left ++ operator ++ list, [clause values]⟩ := by
  have hkey := notMem_of_names hleft
  have hsource : ';' ∉ (left ++ operator ++ list).toList := by simp [hkey, hoperator, hlist]
  rw [parse_eq_ok_iff_of_notMem hsource]
  simp only [← Clause.parse?_eq_some_iff, String.toList_append, List.append_assoc, hparse,
    Option.map_eq_some_iff]
  constructor
  · rintro ⟨_, ⟨values, hvalues, rfl⟩, rfl⟩
    exact ⟨values, hvalues, rfl⟩
  · rintro ⟨values, hvalues, rfl⟩
    exact ⟨_, ⟨values, hvalues, rfl⟩, rfl⟩

/-- The two operators take the same values, and one stands for the negation of the other. -/
theorem parse_different {key left list : String} (hleft : Clause.Names key left.toList)
    (hlist : ';' ∉ list.toList) :
    ((∃ different, parse (left ++ "!=" ++ list) = .ok different) ↔
      ∃ equal, parse (left ++ "=" ++ list) = .ok equal) ∧
    ∀ different equal, parse (left ++ "!=" ++ list) = .ok different →
      parse (left ++ "=" ++ list) = .ok equal →
        ∀ settings, different.holds settings = !equal.holds settings := by
  have hdifferent (condition : Condition) := @parse_operator_eq_ok_iff key left "!=" list
    (.noneOf key) hleft (by decide) hlist (hleft.parse?_different list.toList) condition
  have hequal (condition : Condition) := @parse_operator_eq_ok_iff key left "=" list
    (.anyOf key) hleft (by decide) hlist (hleft.parse?_equal list.toList) condition
  refine ⟨⟨?_, ?_⟩, ?_⟩
  · rintro ⟨different, hread⟩
    obtain ⟨values, hvalues, -⟩ := (hdifferent different).mp hread
    exact ⟨_, (hequal _).mpr ⟨values, hvalues, rfl⟩⟩
  · rintro ⟨equal, hread⟩
    obtain ⟨values, hvalues, -⟩ := (hequal equal).mp hread
    exact ⟨_, (hdifferent _).mpr ⟨values, hvalues, rfl⟩⟩
  · intro different equal hreadDifferent hreadEqual settings
    obtain ⟨values, hvalues, rfl⟩ := (hdifferent different).mp hreadDifferent
    obtain ⟨values', hvalues', rfl⟩ := (hequal equal).mp hreadEqual
    rw [hvalues] at hvalues'
    cases hvalues'
    simp [holds, Clause.holds, Clause.holdsOf, Clause.key]

/-- A key is read with and without an exclamation mark before it, which stands for the negation. -/
theorem parse_exclamation {key left : String} (hleft : Clause.Names key left.toList) :
    ∃ isUnset isSet, parse ("!" ++ left) = .ok isUnset ∧ parse left = .ok isSet ∧
      ∀ settings, isUnset.holds settings = !isSet.holds settings := by
  have hkey := notMem_of_names hleft
  have hmarked : ';' ∉ ("!" ++ left).toList := by simp [hkey]
  have hunset : (Clause.isUnset key).IsWrittenAs ("!" ++ left).toList :=
    ⟨[], left.toList, List.forall_mem_nil _, by simp, hleft⟩
  refine ⟨_, _, (parse_eq_ok_iff_of_notMem hmarked).mpr ⟨_, hunset, rfl⟩,
    (parse_eq_ok_iff_of_notMem hkey).mpr ⟨.isSet key, hleft, rfl⟩, fun settings => ?_⟩
  simp [holds, Clause.holds, Clause.holdsOf, Clause.key]

/-- A text is read as some clauses exactly if it spells them, and so is what is written for these
clauses. A semicolon stands for the conjunction of both sides, `!=` for the negation of `=`, and an
exclamation mark before a key for that of the key alone. -/
theorem read_clause_by_clause :
    (∀ source condition, parse source = .ok condition ↔
      condition.source = source ∧ IsWrittenAs condition.clauses source.toList) ∧
    (∀ source condition, parse source = .ok condition →
      parse (ofClauses condition.clauses).source = .ok (ofClauses condition.clauses)) ∧
    (∀ left right : String,
      ((∃ both, parse (left ++ ";" ++ right) = .ok both) ↔
        (∃ first, parse left = .ok first) ∧ ∃ second, parse right = .ok second) ∧
      ∀ both first second, parse (left ++ ";" ++ right) = .ok both → parse left = .ok first →
        parse right = .ok second →
          ∀ settings, both.holds settings = (first.holds settings && second.holds settings)) ∧
    (∀ key left list : String, Clause.Names key left.toList → ';' ∉ list.toList →
      ((∃ different, parse (left ++ "!=" ++ list) = .ok different) ↔
        ∃ equal, parse (left ++ "=" ++ list) = .ok equal) ∧
      ∀ different equal, parse (left ++ "!=" ++ list) = .ok different →
        parse (left ++ "=" ++ list) = .ok equal →
          ∀ settings, different.holds settings = !equal.holds settings) ∧
    ∀ key left : String, Clause.Names key left.toList →
      ∃ isUnset isSet, parse ("!" ++ left) = .ok isUnset ∧ parse left = .ok isSet ∧
        ∀ settings, isUnset.holds settings = !isSet.holds settings :=
  ⟨fun _ _ => parse_eq_ok_iff, fun _ _ h => parse_ofClauses.mpr (isWritable_of_parse h),
    parse_semicolon, fun _ _ _ => parse_different, fun _ _ => parse_exclamation⟩

/-- A condition with blanks, the same without them, and its second clause, without and with the
exclamation mark. -/
theorem read_clause_by_clause_mode :
    parse " mode = CTC | Fast PWM; ! pcint" = .ok ⟨" mode = CTC | Fast PWM; ! pcint",
        [.anyOf "mode" ["CTC", "Fast PWM"], .isUnset "pcint"]⟩ ∧
      parse "mode=CTC|Fast PWM;!pcint" = .ok ⟨"mode=CTC|Fast PWM;!pcint",
        [.anyOf "mode" ["CTC", "Fast PWM"], .isUnset "pcint"]⟩ ∧
      (∀ settings, holds ⟨" mode = CTC | Fast PWM; ! pcint",
          [.anyOf "mode" ["CTC", "Fast PWM"], .isUnset "pcint"]⟩ settings =
        (holds ⟨" mode = CTC | Fast PWM", [.anyOf "mode" ["CTC", "Fast PWM"]]⟩ settings &&
          holds ⟨" ! pcint", [.isUnset "pcint"]⟩ settings)) ∧
      (∃ different, parse " mode != CTC | Fast PWM" = .ok different ∧
        ∀ settings, different.holds settings =
          !holds ⟨" mode = CTC | Fast PWM", [.anyOf "mode" ["CTC", "Fast PWM"]]⟩ settings) ∧
      ∃ isUnset isSet, parse "! pcint" = .ok isUnset ∧ parse " pcint" = .ok isSet ∧
        ∀ settings, isUnset.holds settings = !isSet.holds settings := by
  obtain ⟨-, hcanonical, hsemicolon, hdifferent, hexclamation⟩ := read_clause_by_clause
  have hboth : parse " mode = CTC | Fast PWM; ! pcint" = .ok ⟨" mode = CTC | Fast PWM; ! pcint",
      [.anyOf "mode" ["CTC", "Fast PWM"], .isUnset "pcint"]⟩ := by decide +kernel
  have hfirst : parse " mode = CTC | Fast PWM" =
      .ok ⟨" mode = CTC | Fast PWM", [.anyOf "mode" ["CTC", "Fast PWM"]]⟩ := by decide +kernel
  have hsecond : parse " ! pcint" = .ok ⟨" ! pcint", [.isUnset "pcint"]⟩ := by decide +kernel
  have hblank : ∀ c ∈ [' '], isBlank c = true := List.forall_mem_singleton.mpr (by decide)
  have hmode : Clause.Names "mode" " mode ".toList :=
    ⟨by decide, [' '], [' '], hblank, hblank, rfl⟩
  have hpcint : Clause.Names "pcint" " pcint".toList :=
    ⟨by decide, [' '], [], hblank, List.forall_mem_nil _, rfl⟩
  obtain ⟨hexists, hnegation⟩ := hdifferent "mode" " mode " " CTC | Fast PWM" hmode (by decide)
  obtain ⟨different, hread⟩ := hexists.mpr ⟨_, hfirst⟩
  exact ⟨hboth, hcanonical _ _ hboth,
    (hsemicolon " mode = CTC | Fast PWM" " ! pcint").2 _ _ _ hboth hfirst hsecond,
    ⟨different, hread, hnegation _ _ hread hfirst⟩, hexclamation "pcint" " pcint" hpcint⟩

end Condition

end AvrSetup
