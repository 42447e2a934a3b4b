import AvrSetup.Proofs.Filling
import AvrSetup.Proofs.WellFormedness
import Mathlib.Data.List.Chain

/-!
# Templates are read as they are written

A template is written segment by segment: literal text as it is, and a placeholder as its name
between double braces, with any blanks around the name. This file shows that reading is the
inverse of that (`Template.parse_eq_ok_iff`): a text is read as some segments exactly if it is
one of their spellings and they can be told apart in it. Single braces of a literal text that
touch those of a placeholder do no harm, since a placeholder begins at the last two of a run of
opening braces and ends at the first two of a run of closing ones.
-/

namespace AvrSetup

open Text

/-! ## Spellings -/

namespace Segment

/-- A text spells a segment. Blanks around the name of a placeholder do not matter. -/
def IsWrittenAs : Segment → List Char → Prop
  | literal text, written => written = text.toList
  | placeholder name, written => ∃ before after, (∀ c ∈ before, isBlank c = true) ∧
      (∀ c ∈ after, isBlank c = true) ∧
      written = '\x7b' :: '\x7b' :: (before ++ name.toList ++ after ++ ['\x7d', '\x7d'])

/-- A text spells some segments, one behind the other. -/
inductive AreWrittenAs : List Segment → List Char → Prop
  /-- Nothing is spelled by the empty text. -/
  | nil : AreWrittenAs [] []
  /-- The spelling of a segment stands before that of the others. -/
  | cons {segment : Segment} {segments : List Segment} {written text : List Char} :
    segment.IsWrittenAs written → AreWrittenAs segments text →
      AreWrittenAs (segment :: segments) (written ++ text)

/-- Segments can be told apart where they are written. -/
structure AreReadable (segments : List Segment) : Prop where
  /-- A placeholder is an identifier, and a literal text has no two opening braces in a row. -/
  wellFormed : ∀ segment ∈ segments, segment.IsWellFormed
  /-- A literal text is not empty. -/
  literal_ne_empty : ∀ text, literal text ∈ segments → text ≠ ""
  /-- Of two neighbours, one is a placeholder. -/
  apart : segments.IsChain fun left right =>
    left.placeholder?.isSome = true ∨ right.placeholder?.isSome = true

theorem areReadable_nil : AreReadable [] := ⟨List.forall_mem_nil _, nofun, .nil⟩

/-- A placeholder may stand before any segments. -/
theorem areReadable_placeholder_cons {name : String} {segments : List Segment} :
    AreReadable (placeholder name :: segments) ↔
      isIdentifier name.toList = true ∧ AreReadable segments := by
  constructor
  · rintro ⟨hwellFormed, hliteral, hapart⟩
    obtain ⟨hname, hrest⟩ := List.forall_mem_cons.mp hwellFormed
    exact ⟨hname, hrest, fun text htext => hliteral text (List.mem_cons_of_mem _ htext),
      (List.isChain_cons.mp hapart).2⟩
  · rintro ⟨hname, hwellFormed, hliteral, hapart⟩
    refine ⟨List.forall_mem_cons.mpr ⟨hname, hwellFormed⟩, fun text htext => ?_, ?_⟩
    · exact hliteral text ((List.mem_cons.mp htext).resolve_left nofun)
    · exact List.isChain_cons.mpr ⟨fun _ _ => .inl rfl, hapart⟩

/-- A literal text may stand before a placeholder and at the end. -/
theorem areReadable_literal_cons {text : String} {segments : List Segment} :
    AreReadable (literal text :: segments) ↔
      (text ≠ "" ∧ ¬['\x7b', '\x7b'] <:+: text.toList) ∧
        (∀ next ∈ segments.head?, next.placeholder?.isSome = true) ∧ AreReadable segments := by
  constructor
  · rintro ⟨hwellFormed, hliteral, hapart⟩
    obtain ⟨htext, hrest⟩ := List.forall_mem_cons.mp hwellFormed
    obtain ⟨hnext, hchain⟩ := List.isChain_cons.mp hapart
    exact ⟨⟨hliteral text List.mem_cons_self, htext⟩,
      fun next hmem => (hnext next hmem).resolve_left nofun, hrest,
      fun other hother => hliteral other (List.mem_cons_of_mem _ hother), hchain⟩
  · rintro ⟨⟨hne, htext⟩, hnext, hwellFormed, hliteral, hapart⟩
    refine ⟨List.forall_mem_cons.mpr ⟨htext, hwellFormed⟩, fun other hother => ?_,
      List.isChain_cons.mpr ⟨fun next hmem => .inr (hnext next hmem), hapart⟩⟩
    rcases List.mem_cons.mp hother with heq | hmem
    · cases heq
      exact hne
    · exact hliteral other hmem

/-- The way in which segments are written without need spells them. -/
theorem areWrittenAs_source (segments : List Segment) :
    AreWrittenAs segments (String.join (segments.map source)).toList := by
  induction segments with
  | nil => exact .nil
  | cons segment segments ih =>
    rw [List.map_cons, String.join_cons, String.toList_append]
    refine .cons ?_ ih
    cases segment with
    | literal text => rfl
    | placeholder name =>
      exact ⟨[], [], List.forall_mem_nil _, List.forall_mem_nil _, by simp [source]⟩

end Segment

namespace Template

/-! ## Where placeholders begin and end -/

/-- No character that belongs to a class is a brace if neither brace does. -/
theorem isBrace_eq_false {belongs : Char → Bool} (hopening : belongs '\x7b' = false)
    (hclosing : belongs '\x7d' = false) {c : Char} (h : belongs c = true) : isBrace c = false := by
  rw [Bool.eq_false_iff]
  intro hbrace
  rcases (Bool.or_eq_true _ _).mp hbrace with hc | hc
  · rw [beq_iff_eq.mp hc, hopening] at h
    cases h
  · rw [beq_iff_eq.mp hc, hclosing] at h
    cases h

/-- A placeholder ends at the first two closing braces, if no brace stands before them. -/
theorem hole?_closed {inside rest : List Char} (h : ∀ c ∈ inside, isBrace c = false) :
    hole? (inside ++ '\x7d' :: '\x7d' :: rest) = some (inside, rest) := by
  have hpass : ∀ c ∈ inside, (!isBrace c) = true := fun c hc => by rw [h c hc]; rfl
  unfold hole?
  rw [List.dropWhile_append_of_pos hpass, List.takeWhile_append_of_pos hpass]
  simp [isBrace]

/-- The inside of a placeholder is followed by two closing braces. -/
theorem eq_of_hole? {text inside rest : List Char} (h : hole? text = some (inside, rest)) :
    text = inside ++ '\x7d' :: '\x7d' :: rest := by
  unfold hole? at h
  split at h
  · next heq =>
    cases h
    conv_lhs => rw [← List.takeWhile_append_dropWhile (p := fun c => !isBrace c) (l := text)]
    rw [heq]
  · cases h

/-- A text that begins with a placeholder is cut there. -/
theorem pieces_hole {text inside rest : List Char} (h : hole? text = some (inside, rest)) :
    pieces ('\x7b' :: '\x7b' :: text) =
      ⟨[], (inside, (pieces rest).lead) :: (pieces rest).holes⟩ := by
  rw [pieces]
  split
  · next found =>
    rw [h] at found
    cases found
    rfl
  · next found =>
    rw [h] at found
    cases found

/-- A character at which no placeholder begins belongs to the literal text. -/
theorem pieces_character {c : Char} {text : List Char}
    (h : ∀ rest, c :: text = '\x7b' :: '\x7b' :: rest → hole? rest = none) :
    pieces (c :: text) = ⟨c :: (pieces text).lead, (pieces text).holes⟩ := by
  by_cases hopening : ∃ rest, c :: text = '\x7b' :: '\x7b' :: rest
  · obtain ⟨rest, heq⟩ := hopening
    have hnone := h rest heq
    cases heq
    rw [pieces]
    split
    · next found =>
      rw [hnone] at found
      cases found
    · rfl
  · rw [pieces]
    rintro rest rfl rfl
    exact hopening ⟨rest, rfl⟩

/-- A literal text stands before the first placeholder, even if it ends with a brace. -/
theorem pieces_append {text behind : List Char} (htext : ¬['\x7b', '\x7b'] <:+: text)
    (hbehind : behind = [] ∨ ∃ rest, behind = '\x7b' :: '\x7b' :: rest) :
    pieces (text ++ behind) = ⟨text ++ (pieces behind).lead, (pieces behind).holes⟩ := by
  induction text with
  | nil => rfl
  | cons c text ih =>
    rw [List.infix_cons_iff, not_or] at htext
    have hcut := ih htext.2
    rw [List.cons_append, pieces_character, hcut, List.cons_append]
    -- Two opening braces can only be the last character of the text and the first one behind it.
    intro rest heq
    cases text with
    | nil =>
      rcases hbehind with rfl | ⟨inside, rfl⟩
      · cases heq
      · cases heq
        rfl
    | cons other text =>
      cases heq
      exact absurd ⟨text, rfl⟩ htext.1

/-! ## From segments to their text and back -/

/-- The text of a placeholder and of the literal text behind it. -/
def holeText (hole : List Char × List Char) : List Char :=
  '\x7b' :: '\x7b' :: (hole.1 ++ '\x7d' :: '\x7d' :: hole.2)

/-- Nothing is lost when a text is cut. -/
theorem text_of_pieces (text : List Char) :
    (pieces text).lead ++ (pieces text).holes.flatMap holeText = text := by
  fun_induction pieces text with
  | case1 => rfl
  | case2 rest inside behind hhole _ _ ih =>
    rw [List.flatMap_cons, holeText, eq_of_hole? hhole]
    simp only [List.nil_append, List.cons_append, List.append_assoc]
    rw [ih]
  | case3 rest _ _ ih => rw [List.cons_append, ih]
  | case4 c rest _ _ ih => rw [List.cons_append, ih]

/-- A literal text without two opening braces in a row is one segment, or none if it is empty. -/
theorem literalSegments_eq_ok_iff {source : String} {text : List Char} {segments : List Segment} :
    literalSegments source text = .ok segments ↔ ¬['\x7b', '\x7b'] <:+: text ∧
      segments = if text = [] then [] else [.literal (.ofList text)] := by
  rw [← hasOpening_iff, literalSegments]
  split
  · next hopening => exact ⟨nofun, fun h => absurd hopening h.1⟩
  · next hopening =>
    rw [← apply_ite Except.ok, Except.ok.injEq, and_iff_right hopening, eq_comm]

/-- The segments of a literal text and of what stands behind it spell both, and can be told
apart. -/
theorem areReadable_of_literalSegments {source : String} {text behind : List Char}
    {literal segments : List Segment} (h : literalSegments source text = .ok literal)
    (hwritten : Segment.AreWrittenAs segments behind) (hreadable : Segment.AreReadable segments)
    (hnext : ∀ next ∈ segments.head?, next.placeholder?.isSome = true) :
    Segment.AreReadable (literal ++ segments) ∧
      Segment.AreWrittenAs (literal ++ segments) (text ++ behind) := by
  obtain ⟨hopening, rfl⟩ := literalSegments_eq_ok_iff.mp h
  split
  · next hempty =>
    subst hempty
    exact ⟨hreadable, hwritten⟩
  · next hne =>
    refine ⟨Segment.areReadable_literal_cons.mpr ⟨⟨?_, ?_⟩, hnext, hreadable⟩, .cons ?_ hwritten⟩
    · intro hempty
      exact hne (String.ofList_eq_empty_iff.mp hempty)
    · rwa [String.toList_ofList]
    · exact String.toList_ofList.symm

/-- The segment of a placeholder is spelled by its text. -/
theorem isWrittenAs_of_placeholderSegment {source : String} {inside : List Char}
    {segment : Segment} (h : placeholderSegment source inside = .ok segment) :
    ∃ name, segment = .placeholder name ∧ isIdentifier name.toList = true ∧
      segment.IsWrittenAs ('\x7b' :: '\x7b' :: (inside ++ ['\x7d', '\x7d'])) := by
  unfold placeholderSegment at h
  dsimp only at h
  split at h
  · next hidentifier =>
    cases h
    obtain ⟨before, after, hbefore, hafter, heq⟩ := exists_padding inside
    refine ⟨_, rfl, ?_, before, after, hbefore, hafter, ?_⟩
    · rwa [String.toList_ofList]
    · rw [String.toList_ofList, ← heq]
  · cases h

/-- The segments from the first placeholder on spell their text, and can be told apart. -/
theorem areReadable_of_holeSegments {source : String} {holes : List (List Char × List Char)}
    {segments : List Segment} (h : holeSegments source holes = .ok segments) :
    Segment.AreReadable segments ∧ Segment.AreWrittenAs segments (holes.flatMap holeText) ∧
      ∀ next ∈ segments.head?, next.placeholder?.isSome = true := by
  induction holes generalizing segments with
  | nil =>
    cases h
    exact ⟨Segment.areReadable_nil, .nil, nofun⟩
  | cons hole holes ih =>
    obtain ⟨inside, text⟩ := hole
    simp only [holeSegments, bind_eq_ok_iff] at h
    obtain ⟨segment, hsegment, literal, hliteral, rest, hrest, heq⟩ := h
    cases heq
    obtain ⟨hreadable, hwritten, hnext⟩ := ih hrest
    obtain ⟨hreadable, hwritten⟩ := areReadable_of_literalSegments hliteral hwritten hreadable hnext
    obtain ⟨name, rfl, hname, hsegment⟩ := isWrittenAs_of_placeholderSegment hsegment
    refine ⟨Segment.areReadable_placeholder_cons.mpr ⟨hname, hreadable⟩, ?_, ?_⟩
    · have hboth := Segment.AreWrittenAs.cons hsegment hwritten
      simpa [holeText] using hboth
    · rintro _ ⟨⟩
      rfl

/-- The spelling of a placeholder is cut off as its inside, of which the name is left when it is
trimmed. -/
theorem exists_hole_of_isWrittenAs {name : String} {written : List Char}
    (hname : isIdentifier name.toList = true)
    (hwritten : (Segment.placeholder name).IsWrittenAs written) (behind : List Char) :
    ∃ inside, trim inside = name.toList ∧ ∃ text,
      written ++ behind = '\x7b' :: '\x7b' :: text ∧ hole? text = some (inside, behind) := by
  obtain ⟨before, after, hbefore, hafter, rfl⟩ := hwritten
  have hparts := isIdentifierPart_of_isIdentifier hname
  have hne : name.toList ≠ [] := by
    intro hempty
    rw [hempty] at hname
    cases hname
  refine ⟨before ++ name.toList ++ after, ?_, _, rfl, ?_⟩
  · exact trim_padded hbefore hafter hne fun c hc => isBlank_of_isIdentifierPart (hparts c hc)
  · have happend : before ++ name.toList ++ after ++ ['\x7d', '\x7d'] ++ behind =
        before ++ name.toList ++ after ++ '\x7d' :: '\x7d' :: behind := by
      rw [List.append_assoc _ _ behind]
      rfl
    refine (congrArg hole? happend).trans (hole?_closed fun c hc => ?_)
    rcases List.mem_append.mp hc with hc | hc
    · rcases List.mem_append.mp hc with hc | hc
      · exact isBrace_eq_false rfl rfl (hbefore c hc)
      · exact isBrace_eq_false rfl rfl (hparts c hc)
    · exact isBrace_eq_false rfl rfl (hafter c hc)

/-- Segments that can be told apart are read from each of their spellings. -/
theorem exists_segments_of_areWrittenAs {segments : List Segment} {text : List Char}
    (hreadable : Segment.AreReadable segments) (hwritten : Segment.AreWrittenAs segments text)
    (source : String) :
    ∃ lead rest, literalSegments source (pieces text).lead = .ok lead ∧
      holeSegments source (pieces text).holes = .ok rest ∧ lead ++ rest = segments := by
  have hempty : literalSegments source [] = .ok [] := rfl
  induction hwritten with
  | nil =>
    rw [pieces]
    exact ⟨[], [], rfl, rfl, rfl⟩
  | @cons segment segments written text hsegment hwritten ih =>
    cases segment with
    | placeholder name =>
      obtain ⟨hname, hreadable⟩ := Segment.areReadable_placeholder_cons.mp hreadable
      obtain ⟨literal, rest, hliteral, hrest, rfl⟩ := ih hreadable
      obtain ⟨inside, hinside, _, heq, hhole⟩ := exists_hole_of_isWrittenAs hname hsegment text
      have hplaceholder : placeholderSegment source inside = .ok (.placeholder name) := by
        rw [placeholderSegment, hinside, if_pos hname, String.ofList_toList]
      rw [heq, pieces_hole hhole]
      refine ⟨[], .placeholder name :: (literal ++ rest), hempty, ?_, rfl⟩
      rw [holeSegments, hplaceholder, hliteral, hrest]
      rfl
    | literal content =>
      obtain ⟨⟨hne, hopening⟩, hnext, hreadable⟩ := Segment.areReadable_literal_cons.mp hreadable
      obtain ⟨lead, rest, hlead, hrest, hsegments⟩ := ih hreadable
      obtain rfl := hsegment
      -- Behind a literal text there is nothing, or a placeholder begins at once.
      have hbehind : text = [] ∨ ∃ behind, text = '\x7b' :: '\x7b' :: behind := by
        cases hwritten with
        | nil => exact .inl rfl
        | @cons next _ spelled _ hspelled _ =>
          cases next with
          | literal other => exact absurd (hnext _ rfl) Bool.false_ne_true
          | placeholder name =>
            obtain ⟨before, after, -, -, rfl⟩ := hspelled
            exact .inr ⟨_, rfl⟩
      -- So the rest of the text has no literal text before its first placeholder.
      obtain ⟨-, rfl⟩ := literalSegments_eq_ok_iff.mp hlead
      have hfirst : (pieces text).lead = [] := by
        by_contra hlead
        rw [if_neg hlead] at hsegments
        refine absurd (hnext (.literal (.ofList (pieces text).lead)) ?_) Bool.false_ne_true
        rw [← hsegments]
        rfl
      rw [pieces_append hopening hbehind, hfirst, List.append_nil]
      rw [if_pos hfirst, List.nil_append] at hsegments
      refine ⟨[.literal content], rest, literalSegments_eq_ok_iff.mpr ⟨hopening, ?_⟩, hrest, ?_⟩
      · rw [if_neg fun h => hne (String.toList_eq_nil_iff.mp h), String.ofList_toList]
      · rw [hsegments]
        rfl

/-- A text is read as some segments exactly if it spells them and they can be told apart. -/
theorem parse_eq_ok_iff {source : String} {template : Template} :
    parse source = .ok template ↔ template.source = source ∧
      Segment.AreReadable template.segments ∧
      Segment.AreWrittenAs template.segments source.toList := by
  constructor
  · intro h
    simp only [parse, bind_eq_ok_iff] at h
    obtain ⟨lead, hlead, rest, hrest, heq⟩ := h
    cases heq
    obtain ⟨hreadable, hwritten, hnext⟩ := areReadable_of_holeSegments hrest
    have hboth := areReadable_of_literalSegments hlead hwritten hreadable hnext
    rw [text_of_pieces] at hboth
    exact ⟨rfl, hboth⟩
  · rintro ⟨hsource, hreadable, hwritten⟩
    obtain ⟨lead, rest, hlead, hrest, hsegments⟩ :=
      exists_segments_of_areWrittenAs hreadable hwritten source
    simp only [parse, bind_eq_ok_iff]
    refine ⟨lead, hlead, rest, hrest, ?_⟩
    rw [hsegments, ← hsource]
    rfl

/-- A text is read as some segments exactly if it spells them and they can be told apart, and
so what is written for such segments is read as them. Filling in then gives the literal texts
and the values in order, or names the first placeholder that has none. -/
theorem read_as_written :
    (∀ source template, parse source = .ok template ↔ template.source = source ∧
      Segment.AreReadable template.segments ∧
      Segment.AreWrittenAs template.segments source.toList) ∧
    (∀ segments, parse (ofSegments segments).source = .ok (ofSegments segments) ↔
      Segment.AreReadable segments) ∧
    ∀ (template : Template) (parameters : Parameters),
      (∀ text, template.render parameters = .ok text ↔
        (∀ name ∈ template.placeholders, parameters.contains name = true) ∧
          text = String.join (template.segments.map (Segment.fill parameters))) ∧
      ∀ missing, template.render parameters = .error missing ↔
        (template.placeholders.find? fun name => !parameters.contains name) = some missing := by
  refine ⟨fun _ _ => parse_eq_ok_iff, fun segments => ?_, fun _ _ =>
    ⟨fun _ => render_eq_ok_iff, fun _ => render_eq_error_iff⟩⟩
  rw [parse_eq_ok_iff]
  exact ⟨fun h => h.2.1, fun h => ⟨rfl, h, Segment.areWrittenAs_source segments⟩⟩

/-- Braces of the literal texts stand on both sides of those of a placeholder. -/
example : parse "a\x7b\x7b\x7b x \x7d\x7d\x7d" = .ok ⟨"a\x7b\x7b\x7b x \x7d\x7d\x7d",
    [.literal "a\x7b", .placeholder "x", .literal "\x7d"]⟩ := by decide +kernel

end Template

end AvrSetup
