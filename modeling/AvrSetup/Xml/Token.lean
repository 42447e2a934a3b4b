import AvrSetup.Text.Blank
import AvrSetup.Xml.Basic
import AvrSetup.Xml.Charset
import AvrSetup.Xml.Failure

/-!
# Markup

A document is a sequence of tags, texts, character data sections, comments and processing
instructions. This file reads them off the text, each with the stretch that it takes
(`Cursor.scan`). Every step of reading moves on, which is why reading ends.
-/

namespace AvrSetup.Xml

/-- A name as it is written, with the qualifier before its colon, if there is one. -/
structure RawName where
  /-- The qualifier, empty if there is none. -/
  qualifier : String
  /-- The name behind the colon. -/
  base : String
  deriving DecidableEq, Repr

/-- A piece of markup, or the text between two. -/
inductive Token where
  /-- A processing instruction. -/
  | instruction (target content : String)
  /-- A comment. -/
  | comment (content : String)
  /-- A character data section. -/
  | characterData (content : List Char)
  /-- A text. -/
  | text (content : List Char)
  /-- An opening tag with its attributes, and whether it closes its element as well. -/
  | opening (name : RawName) (attributes : List (RawName × List Char)) (closed : Bool)
  /-- A closing tag. -/
  | closing (name : RawName)

/-- A token and where it stands. -/
structure Lexeme where
  /-- The token. -/
  token : Token
  /-- The stretch that it takes. -/
  span : Span

/-- A place in a document and the text from there on. -/
structure Cursor where
  /-- The place. -/
  position : Position
  /-- The text behind it. -/
  rest : List Char

/-- What was read at a cursor, and the cursor behind it, which has moved on. -/
structure Read (α : Type) (start : Cursor) where
  /-- What was read. -/
  value : α
  /-- The cursor behind it. -/
  next : Cursor
  /-- Something was read. -/
  moved : next.rest.length < start.rest.length

namespace Cursor

/-- Read the longest run of characters that pass a test. -/
def runFrom (p : Char → Bool) : Position → List Char → List Char × Cursor
  | position, [] => ([], ⟨position, []⟩)
  | position, c :: rest =>
    if p c then
      let (run, next) := runFrom p (position.next c) rest
      (c :: run, next)
    else ([], ⟨position, c :: rest⟩)

/-- Read the longest run of characters that pass a test. -/
def run (cursor : Cursor) (p : Char → Bool) : List Char × Cursor :=
  runFrom p cursor.position cursor.rest

/-- A run takes as many characters as it has. -/
theorem runFrom_length (p : Char → Bool) (position : Position) (text : List Char) :
    (runFrom p position text).1.length + (runFrom p position text).2.rest.length = text.length := by
  induction text generalizing position with
  | nil => rfl
  | cons c rest ih =>
    simp only [runFrom]
    split
    · have := ih (position.next c)
      simp only [List.length_cons]
      omega
    · simp

theorem run_length (cursor : Cursor) (p : Char → Bool) :
    (cursor.run p).1.length + (cursor.run p).2.rest.length = cursor.rest.length :=
  runFrom_length p cursor.position cursor.rest

/-- The cursor behind blanks. -/
def skipBlanks (cursor : Cursor) : Cursor := (cursor.run isBlank).2

theorem skipBlanks_le (cursor : Cursor) : cursor.skipBlanks.rest.length ≤ cursor.rest.length := by
  have := run_length cursor isBlank
  unfold skipBlanks
  omega

/-- Whether a blank stands at the cursor. -/
def atBlank (cursor : Cursor) : Bool := cursor.rest.head?.any isBlank

/-- Read a given mark. -/
def markFrom? : List Char → Position → List Char → Option Cursor
  | [], position, text => some ⟨position, text⟩
  | m :: mark, position, c :: rest => if m = c then markFrom? mark (position.next c) rest else none
  | _ :: _, _, [] => none

/-- Read a given mark. -/
def mark? (cursor : Cursor) (mark : String) : Option Cursor :=
  markFrom? mark.toList cursor.position cursor.rest

/-- A mark takes as many characters as it has. -/
theorem markFrom?_length {mark text : List Char} {position : Position} {next : Cursor}
    (h : markFrom? mark position text = some next) :
    mark.length + next.rest.length = text.length := by
  induction mark generalizing position text with
  | nil =>
    cases h
    simp
  | cons m mark ih => cases text with
    | nil => cases h
    | cons c rest =>
      simp only [markFrom?] at h
      split at h
      · have := ih h
        simp only [List.length_cons]
        omega
      · cases h

theorem mark?_length {cursor next : Cursor} {mark : String} (h : cursor.mark? mark = some next) :
    mark.toList.length + next.rest.length = cursor.rest.length :=
  markFrom?_length h

/-- Read up to a given mark, and the mark. -/
def untilFrom? (mark : List Char) : Position → List Char → Option (List Char × Cursor)
  | position, [] => (markFrom? mark position []).map fun next => ([], next)
  | position, c :: rest =>
    match markFrom? mark position (c :: rest) with
    | some next => some ([], next)
    | none => (untilFrom? mark (position.next c) rest).map fun (text, next) => (c :: text, next)

/-- Read up to a given mark, and the mark. -/
def until? (cursor : Cursor) (mark : String) : Option (List Char × Cursor) :=
  untilFrom? mark.toList cursor.position cursor.rest

theorem untilFrom?_le {mark content text : List Char} {position : Position} {next : Cursor}
    (h : untilFrom? mark position text = some (content, next)) :
    mark.length + next.rest.length ≤ text.length := by
  induction text generalizing position content next with
  | nil =>
    obtain ⟨found, hfound, heq⟩ := Option.map_eq_some_iff.mp h
    cases heq
    have := markFrom?_length hfound
    omega
  | cons c rest ih =>
    simp only [untilFrom?] at h
    split at h
    · next found hfound =>
      cases h
      have := markFrom?_length hfound
      omega
    · obtain ⟨⟨tail, found⟩, hfound, heq⟩ := Option.map_eq_some_iff.mp h
      have hle : mark.length + found.rest.length ≤ rest.length := ih hfound
      cases heq
      simp only [List.length_cons]
      omega

theorem until?_le {cursor next : Cursor} {mark : String} {content : List Char}
    (h : cursor.until? mark = some (content, next)) :
    mark.toList.length + next.rest.length ≤ cursor.rest.length :=
  untilFrom?_le h

/-! ## Names and attributes -/

/-- Read a run that is not empty. -/
def someRun (cursor : Cursor) (p : Char → Bool) : Except Failure (Read (List Char) cursor) :=
  if h : (cursor.run p).1 = [] then .error .invalidName
  else .ok ⟨(cursor.run p).1, (cursor.run p).2, by
    have := run_length cursor p
    have := List.length_pos_iff.mpr h
    omega⟩

/-- Read a name. -/
def name (cursor : Cursor) : Except Failure (Read (List Char) cursor) := do
  let run ← cursor.someRun isNamePart
  if run.value.head?.any isNameStart then return run
  throw .invalidName

/-- The two parts of a name that has at most one colon. Each part begins like a name, and
only the one before the colon may be empty. -/
def splitName? (text : List Char) : Option RawName :=
  let parts := match text.splitOn ':' with
    | [base] => some ([], base)
    | [qualifier, base] => some (qualifier, base)
    | _ => none
  parts.bind fun (qualifier, base) =>
    if qualifier.head?.all isNameStart && base.head?.any isNameStart then
      some ⟨.ofList qualifier, .ofList base⟩
    else none

/-- Read a name with an optional qualifier. -/
def qualifiedName (cursor : Cursor) : Except Failure (Read RawName cursor) := do
  let run ← cursor.someRun isNamePart
  match splitName? run.value with
  | some name => return ⟨name, run.next, run.moved⟩
  | none => throw .invalidName

/-- Read a given mark, which is not empty. -/
def expect (cursor : Cursor) (mark : String) (hmark : 0 < mark.toList.length) :
    Except Failure (Read Unit cursor) :=
  match h : cursor.mark? mark with
  | none => .error (if cursor.rest = [] then .unexpectedEnd else .misplaced "character")
  | some next => .ok ⟨(), next, by
      have := mark?_length h
      omega⟩

/-- Read text up to a given mark, and the mark, which is not empty. -/
def expectUntil (cursor : Cursor) (mark : String) (hmark : 0 < mark.toList.length) :
    Except Failure (Read (List Char) cursor) :=
  match h : cursor.until? mark with
  | none => .error .unexpectedEnd
  | some (content, next) => .ok ⟨content, next, by
      have := until?_le h
      omega⟩

/-- Whether a character may stand in an attribute value between given quotes. -/
def isValueChar (quote c : Char) : Bool := c != quote && c != '<'

/-- Read the value of an attribute with its quotes, which are of either kind. -/
def quotedValue (cursor : Cursor) : Except Failure (Read (List Char) cursor) := do
  let quote := if (cursor.mark? "'").isSome then '\'' else '"'
  let opening ← if quote = '\'' then cursor.expect "'" (by decide)
    else cursor.expect "\"" (by decide)
  let behind := (opening.next.run (isValueChar quote)).2
  have hbehind : behind.rest.length ≤ opening.next.rest.length := by
    have := run_length opening.next (isValueChar quote)
    show (opening.next.run (isValueChar quote)).2.rest.length ≤ _
    omega
  let closing ← if quote = '\'' then behind.expect "'" (by decide)
    else behind.expect "\"" (by decide)
  return ⟨(opening.next.run (isValueChar quote)).1, closing.next,
    Nat.lt_trans (Nat.lt_of_lt_of_le closing.moved hbehind) opening.moved⟩

/-- Read an attribute. -/
def attributePair (cursor : Cursor) : Except Failure (Read (RawName × List Char) cursor) := do
  let name ← cursor.qualifiedName
  let equals ← name.next.skipBlanks.expect "=" (by decide)
  let value ← equals.next.skipBlanks.quotedValue
  return ⟨(name.value, value.value), value.next, by
    have := name.moved
    have := skipBlanks_le name.next
    have := equals.moved
    have := skipBlanks_le equals.next
    have := value.moved
    omega⟩

/-! ## Tags -/

/-- Read the attributes of an opening tag and its end, and tell whether it closes its
element as well. Attributes stand behind blanks. -/
def tagRest (cursor : Cursor) :
    Except Failure (Read (List (RawName × List Char) × Bool) cursor) :=
  match h : cursor.skipBlanks.rest with
  | '/' :: '>' :: behind => .ok
    ⟨([], true), ⟨(cursor.skipBlanks.position.next '/').next '>', behind⟩, by
      have := skipBlanks_le cursor
      simp only [h, List.length_cons] at this ⊢
      omega⟩
  | '>' :: behind => .ok
    ⟨([], false), ⟨cursor.skipBlanks.position.next '>', behind⟩, by
      have := skipBlanks_le cursor
      simp only [h, List.length_cons] at this ⊢
      omega⟩
  | [] => .error .unexpectedEnd
  | _ =>
    if cursor.atBlank then do
      let first ← cursor.skipBlanks.attributePair
      have hfirst := Nat.lt_of_lt_of_le first.moved (skipBlanks_le cursor)
      let others ← first.next.tagRest
      return ⟨(first.value :: others.value.1, others.value.2), others.next,
        Nat.lt_trans others.moved hfirst⟩
    else .error (.misplaced "character")
termination_by cursor.rest.length

/-- Read an opening tag. -/
def openingTag (cursor : Cursor) : Except Failure (Read Token cursor) := do
  let mark ← cursor.expect "<" (by decide)
  let name ← mark.next.qualifiedName
  let rest ← name.next.tagRest
  return ⟨.opening name.value rest.value.1 rest.value.2, rest.next,
    Nat.lt_trans rest.moved (Nat.lt_trans name.moved mark.moved)⟩

/-- Read a closing tag. -/
def closingTag (cursor : Cursor) : Except Failure (Read Token cursor) := do
  let mark ← cursor.expect "</" (by decide)
  let name ← mark.next.qualifiedName
  let closing ← name.next.skipBlanks.expect ">" (by decide)
  return ⟨.closing name.value, closing.next, by
    have := mark.moved
    have := name.moved
    have := skipBlanks_le name.next
    have := closing.moved
    omega⟩

/-! ## Other tokens -/

/-- Whether a text has two hyphens in a row or ends in a hyphen. -/
def hasHyphens : List Char → Bool
  | [] => false
  | ['-'] => true
  | '-' :: '-' :: _ => true
  | _ :: rest => hasHyphens rest

/-- Read a comment. -/
def comment (cursor : Cursor) : Except Failure (Read Token cursor) := do
  let mark ← cursor.expect "<!--" (by decide)
  let content ← mark.next.expectUntil "-->" (by decide)
  if hasHyphens content.value then throw .invalidComment
  return ⟨.comment (.ofList content.value), content.next, Nat.lt_trans content.moved mark.moved⟩

/-- Read a character data section. -/
def characterData (cursor : Cursor) : Except Failure (Read Token cursor) := do
  let mark ← cursor.expect "<![CDATA[" (by decide)
  let content ← mark.next.expectUntil "]]>" (by decide)
  return ⟨.characterData content.value, content.next, Nat.lt_trans content.moved mark.moved⟩

/-- Read a processing instruction. What looks like the declaration of a document is none. -/
def instruction (cursor : Cursor) : Except Failure (Read Token cursor) := do
  if (cursor.mark? "<?xml ").isSome then throw (.misplaced "declaration")
  let mark ← cursor.expect "<?" (by decide)
  let name ← mark.next.name
  let content ← name.next.skipBlanks.expectUntil "?>" (by decide)
  return ⟨.instruction (.ofList name.value) (.ofList content.value), content.next, by
    have := mark.moved
    have := name.moved
    have := skipBlanks_le name.next
    have := content.moved
    omega⟩

/-- Read a text up to the next markup. The mark that ends a character data section may not
stand in it. -/
def textRun (cursor : Cursor) : Except Failure (Read Token cursor) := do
  let run ← cursor.someRun (· != '<')
  if (Cursor.until? ⟨.start, run.value⟩ "]]>").isSome then throw .invalidText
  return ⟨.text run.value, run.next, run.moved⟩

/-- Read a token. -/
def token (cursor : Cursor) : Except Failure (Read Token cursor) :=
  if (cursor.mark? "<!--").isSome then cursor.comment
  else if (cursor.mark? "<![CDATA[").isSome then cursor.characterData
  else if (cursor.mark? "<!").isSome then .error (.misplaced "declaration")
  else if (cursor.mark? "<?").isSome then cursor.instruction
  else if (cursor.mark? "</").isSome then cursor.closingTag
  else if (cursor.mark? "<").isSome then cursor.openingTag
  else cursor.textRun

/-- Read all tokens up to the end of the text. -/
def scan (cursor : Cursor) : Except Failure (List Lexeme) :=
  if cursor.rest = [] then .ok []
  else do
    let first ← cursor.token
    have := first.moved
    let others ← first.next.scan
    return ⟨first.value, ⟨cursor.position, first.next.position⟩⟩ :: others
termination_by cursor.rest.length

/-! ## The start of a document -/

/-- The cursor behind blanks, which have to stand before anything but the end of a
declaration. -/
def expectBlanks (cursor : Cursor) : Except Failure Cursor :=
  if cursor.atBlank || (cursor.mark? "?>").isSome then .ok cursor.skipBlanks
  else .error (.misplaced "character")

/-- The cursor behind an attribute of a declaration, if one whose name begins with a given
word follows. -/
def skipAttribute (cursor : Cursor) (word : String) : Except Failure Cursor :=
  if (cursor.mark? word).isSome then cursor.attributePair.map Read.next else .ok cursor

/-- The cursor behind the declaration of a document, if it has one. -/
def skipDeclaration (cursor : Cursor) : Except Failure Cursor :=
  if (cursor.mark? "<?xml ").isSome then do
    let mark ← cursor.expect "<?xml" (by decide)
    let version ← mark.next.expectBlanks
    if (version.mark? "version").isNone then throw (.misplaced "character")
    let version ← (← version.attributePair).next.expectBlanks
    let encoding ← version.skipAttribute "encoding"
    let encoding ←
      if (version.mark? "encoding").isSome then encoding.expectBlanks else pure encoding
    let standalone ← encoding.skipAttribute "standalone"
    let closing ← standalone.skipBlanks.expect "?>" (by decide)
    return closing.next
  else .ok cursor

/-- The cursor behind a byte order mark, if the text has one. -/
def skipOrderMark (cursor : Cursor) : Cursor := (cursor.mark? "\uFEFF").getD cursor

end Cursor

end AvrSetup.Xml
