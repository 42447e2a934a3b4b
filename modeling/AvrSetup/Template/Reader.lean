import AvrSetup.Template.Basic
import AvrSetup.Text.Blank
import AvrSetup.Text.Identifier
import AvrSetup.Text.Quoted

/-!
# Reading templates

A placeholder is written as a name between double braces, with blanks allowed around the
name. The text is cut at the leftmost stretches of two opening braces, characters that
are no braces, and two closing braces. Between them, two opening braces in a row mean a
placeholder that does not end.
-/

namespace AvrSetup

namespace Template

open Text

/-- Why a text is no template. -/
inductive Failure where
  /-- A placeholder is opened and not closed. -/
  | unterminated (source : String)
  /-- A placeholder holds something else than a name. -/
  | invalidPlaceholder (source : String) (name : String)
  deriving DecidableEq, Repr

/-- What is wrong with a text that is no template. -/
def Failure.message : Failure → String
  | unterminated source => "unterminated placeholder in template " ++ quoted source
  | invalidPlaceholder source name =>
    "invalid placeholder name " ++ quoted name ++ " in template " ++ quoted source

/-- Whether a character is a brace. -/
def isBrace (c : Char) : Bool := c == '\x7b' || c == '\x7d'

/-- The inside of a placeholder behind its opening braces, and the text behind its closing
ones. -/
def hole? (text : List Char) : Option (List Char × List Char) :=
  match text.dropWhile fun c => !isBrace c with
  | '\x7d' :: '\x7d' :: rest => some (text.takeWhile fun c => !isBrace c, rest)
  | _ => none

theorem hole?_shorter {text name rest : List Char} (h : hole? text = some (name, rest)) :
    rest.length < text.length := by
  unfold hole? at h
  split at h
  · next heq =>
    cases h
    have hle := (List.dropWhile_suffix (l := text) fun c => !isBrace c).length_le
    rw [heq] at hle
    simp only [List.length_cons] at hle
    omega
  · cases h

/-- A text cut at its placeholders: the literal text before the first one, and each
placeholder with the literal text behind it. -/
structure Pieces where
  /-- The text before the first placeholder. -/
  lead : List Char
  /-- The inside of each placeholder, and the text from it to the next. -/
  holes : List (List Char × List Char)

/-- Cut a text at its placeholders. -/
def pieces : List Char → Pieces
  | [] => ⟨[], []⟩
  | '\x7b' :: '\x7b' :: rest =>
    match h : hole? rest with
    | some (name, rest') =>
      have := hole?_shorter h
      let behind := pieces rest'
      ⟨[], (name, behind.lead) :: behind.holes⟩
    | none =>
      let behind := pieces ('\x7b' :: rest)
      ⟨'\x7b' :: behind.lead, behind.holes⟩
  | c :: rest =>
    let behind := pieces rest
    ⟨c :: behind.lead, behind.holes⟩
termination_by text => text.length

/-- Whether a text has two opening braces in a row. -/
def hasOpening : List Char → Bool
  | '\x7b' :: '\x7b' :: _ => true
  | _ :: rest => hasOpening rest
  | [] => false

/-- The segment of a literal text, of which there is none if the text is empty. -/
def literalSegments (source : String) (text : List Char) : Except Failure (List Segment) :=
  if hasOpening text then .error (.unterminated source)
  else if text = [] then .ok []
  else .ok [.literal (.ofList text)]

/-- The segment of a placeholder. -/
def placeholderSegment (source : String) (inside : List Char) : Except Failure Segment :=
  let name := trim inside
  if isIdentifier name then .ok (.placeholder (.ofList name))
  else .error (.invalidPlaceholder source (.ofList name))

/-- The segments of the placeholders and of the literal texts behind them. -/
def holeSegments (source : String) : List (List Char × List Char) → Except Failure (List Segment)
  | [] => .ok []
  | (inside, text) :: holes => do
    let name ← placeholderSegment source inside
    let literal ← literalSegments source text
    return name :: literal ++ (← holeSegments source holes)

/-- Read a template. The first fault from the left is reported. -/
def parse (source : String) : Except Failure Template := do
  let cut := pieces source.toList
  let lead ← literalSegments source cut.lead
  return ⟨source, lead ++ (← holeSegments source cut.holes)⟩

end Template

end AvrSetup
