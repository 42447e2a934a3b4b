import AvrSetup.Xml.Charset
import AvrSetup.Xml.Failure

/-!
# Character data

In texts and attribute values, references between an ampersand and a semicolon stand for
characters. Line ends become line feeds in texts, and all white space becomes blanks in
attribute values; characters that references stand for are kept as they are.
-/

namespace AvrSetup.Xml

/-- A character of a text or an attribute value. -/
inductive Piece where
  /-- A character that stands for itself. -/
  | plain (c : Char)
  /-- A character that a reference stands for. -/
  | referenced (c : Char)
  deriving DecidableEq, Repr

/-- The value of digits in a base, most significant first. -/
def valueIn (base : Nat) (digits : List Nat) : Nat :=
  digits.foldl (fun value digit => base * value + digit) 0

/-- The value of a hexadecimal digit. -/
def hexDigit? (c : Char) : Option Nat :=
  if c.isDigit then some (c.toNat - '0'.toNat)
  else if 'a' ≤ c ∧ c ≤ 'f' then some (c.toNat - 'a'.toNat + 10)
  else if 'A' ≤ c ∧ c ≤ 'F' then some (c.toNat - 'A'.toNat + 10)
  else none

/-- The value of a decimal digit. -/
def decimalDigit? (c : Char) : Option Nat :=
  if c.isDigit then some (c.toNat - '0'.toNat) else none

/-- The character of a code point: the replacement character if it is none, and nothing if
the number has more than 32 bits or the character is not allowed. -/
def charOfCode? (code : Nat) : Option Char :=
  if Nat.pow 2 32 ≤ code then none
  else
    let c := if code.isValidChar then Char.ofNat code else '\uFFFD'
    if isAllowed c then some c else none

/-- The character that a reference stands for, given what stands between the ampersand and
the semicolon. -/
def referenced? : List Char → Option Char
  | ['q', 'u', 'o', 't'] => some '"'
  | ['a', 'm', 'p'] => some '&'
  | ['a', 'p', 'o', 's'] => some '\''
  | ['l', 't'] => some '<'
  | ['g', 't'] => some '>'
  | '#' :: 'x' :: digits =>
    if digits = [] then none else (digits.mapM hexDigit?).bind fun ds => charOfCode? (valueIn 16 ds)
  | '#' :: digits =>
    if digits = [] then none
    else (digits.mapM decimalDigit?).bind fun ds => charOfCode? (valueIn 10 ds)
  | _ => none

/-- The characters of a text in which references are looked up. The first argument holds,
the last one first, what was read of a reference that is not closed yet. -/
def piecesFrom : Option (List Char) → List Char → Except Failure (List Piece)
  | none, [] => .ok []
  | some _, [] => .error .unexpectedEnd
  | none, c :: rest =>
    if c = '&' then piecesFrom (some []) rest
    else (piecesFrom none rest).map (.plain c :: ·)
  | some reference, c :: rest =>
    if c = ';' then
      match referenced? reference.reverse with
      | some c => (piecesFrom none rest).map (.referenced c :: ·)
      | none => .error (.invalidReference (.ofList reference.reverse))
    else piecesFrom (some (c :: reference)) rest

/-- The characters of a text in which references are looked up. -/
def pieces (text : List Char) : Except Failure (List Piece) := piecesFrom none text

/-- Turn line ends into line feeds. A lone carriage return is kept beside a reference:
right before one, or right after one at the end of the text. -/
def lineEnds (afterReference : Bool) : List Piece → List Char
  | [] => []
  | .referenced c :: rest => c :: lineEnds true rest
  | [.plain '\r'] => if afterReference then ['\r'] else ['\n']
  | .plain '\r' :: .plain '\n' :: rest => '\n' :: lineEnds false rest
  | .plain '\r' :: .referenced c :: rest => '\r' :: c :: lineEnds true rest
  | .plain '\r' :: rest => '\n' :: lineEnds false rest
  | .plain c :: rest => c :: lineEnds false rest

/-- The content of a text. -/
def textContent (text : List Char) : Except Failure String :=
  (pieces text).map fun pieces => .ofList (lineEnds false pieces)

/-- The content of a character data section, in which there are no references. -/
def sectionContent (text : List Char) : String := .ofList (lineEnds false (text.map .plain))

/-- Turn white space into blanks, and a line end of two characters into one blank. -/
def blanked : List Piece → List Char
  | [] => []
  | .referenced c :: rest => c :: blanked rest
  | .plain '\r' :: .plain '\n' :: rest => ' ' :: blanked rest
  | .plain c :: rest => (if isBlank c then ' ' else c) :: blanked rest

/-- The value of an attribute. -/
def attributeContent (text : List Char) : Except Failure String :=
  (pieces text).map fun pieces => .ofList (blanked pieces)

end AvrSetup.Xml
