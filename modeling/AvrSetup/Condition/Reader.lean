import AvrSetup.Condition.Basic
import AvrSetup.Text.Blank
import AvrSetup.Text.Identifier
import AvrSetup.Text.Quoted

/-!
# Reading conditions

Clauses stand between semicolons. `key` and `!key` ask whether a setting is set,
`key=A|B` and `key!=A|B` compare it. Blanks may stand around keys, operators and values.
A value list is one line of text, and none of its values is empty.
-/

namespace AvrSetup

/-- A clause that cannot be read. -/
structure InvalidClause where
  /-- The whole condition. -/
  source : String
  /-- The clause. -/
  clause : String
  deriving DecidableEq, Repr

/-- What is wrong with a clause that cannot be read. -/
def InvalidClause.message (failure : InvalidClause) : String :=
  "invalid predicate clause " ++ Text.quoted failure.clause ++ " in " ++
    Text.quoted failure.source

namespace Clause

open Text

/-- Split off an exclamation mark at the start of a text. -/
def negation : List Char → Bool × List Char
  | '!' :: rest => (true, rest)
  | text => (false, text)

/-- Read a list of values. -/
def values? (text : List Char) : Option (List String) :=
  let inner := trim text
  let values := alternatives inner
  if inner.contains '\n' ∨ values.contains "" then none else some values

/-- Read what follows the key of a clause. -/
def ofParts? (negated : Bool) (key : String) (rest : List Char) : Option Clause :=
  match negated, rest with
  | false, [] => some (isSet key)
  | true, [] => some (isUnset key)
  | false, '=' :: rest => (values? rest).map (anyOf key)
  | false, '!' :: '=' :: rest => (values? rest).map (noneOf key)
  | _, _ => none

/-- Read one clause. -/
def parse? (text : List Char) : Option Clause := do
  let (negated, rest) := negation (trimStart text)
  let (key, rest) ← identifier? (trimStart rest)
  ofParts? negated (.ofList key) (trimStart rest)

end Clause

namespace Condition

/-- Read a condition. The first clause that cannot be read is reported. -/
def parse (source : String) : Except InvalidClause Condition := do
  let clauses ← (source.toList.splitOn ';').mapM fun piece =>
    match Clause.parse? piece with
    | some clause => .ok clause
    | none => .error ⟨source, .ofList piece⟩
  return ⟨source, clauses⟩

end Condition

end AvrSetup
