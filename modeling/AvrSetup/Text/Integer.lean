/-!
# Integers in decimal

An integer is written with ASCII digits, at least one, after an optional sign. Leading
zeros are allowed, blanks and digit separators are not. Each use of an integer has a
range, and a number outside it counts as badly written.
-/

namespace AvrSetup.Text

/-- The value of decimal digits, most significant first. -/
def digitsValue (digits : List Char) : Nat :=
  digits.foldl (fun value c => 10 * value + (c.toNat - '0'.toNat)) 0

/-- Read digits alone. -/
def readDigits (text : List Char) : Option Nat :=
  if text ≠ [] ∧ text.all Char.isDigit then some (digitsValue text) else none

/-- Read digits after an optional `+`. -/
def readNat (text : List Char) : Option Nat :=
  match text with
  | '+' :: digits => readDigits digits
  | digits => readDigits digits

/-- Read digits after an optional `+` or `-`. -/
def readInt (text : List Char) : Option Int :=
  match text with
  | '-' :: digits => (readDigits digits).map fun value => -(value : Int)
  | digits => (readNat digits).map fun value => (value : Int)

/-- The least integer of 64 bits. -/
def minInt64 : Int := -9223372036854775808

/-- The greatest integer of 64 bits. -/
def maxInt64 : Int := 9223372036854775807

/-- The greatest natural number of 32 bits. -/
def maxNat32 : Nat := 4294967295

/-- Read a signed integer of 64 bits. -/
def readInt64 (text : String) : Option Int :=
  (readInt text.toList).filter fun value => decide (minInt64 ≤ value ∧ value ≤ maxInt64)

/-- Read a natural number of 32 bits. -/
def readNat32 (text : String) : Option Nat :=
  (readNat text.toList).filter fun value => decide (value ≤ maxNat32)

/-- Read a truth value, written as a word in lower case. -/
def readBool : String → Option Bool
  | "true" => some true
  | "false" => some false
  | _ => none

/-- The word for a truth value. -/
def boolWord (value : Bool) : String := if value then "true" else "false"

/-- A word for a truth value reads back as that value. -/
theorem readBool_boolWord (value : Bool) : readBool (boolWord value) = some value := by
  cases value <;> rfl

end AvrSetup.Text
