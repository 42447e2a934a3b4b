import AvrSetup.SortedMap
import AvrSetup.Text.Integer

/-!
# Setting values and records

A setting is a text, an integer or a truth value. Tables and lists of allowed values look
a value up by its key text, so that `8` and `"8"` find the same entry; the generated code
shows it by its C text. A record of settings is a map from setting keys to values.
-/

namespace AvrSetup

/-- The value of a setting. -/
inductive Value where
  /-- A text. -/
  | text (content : String)
  /-- An integer. -/
  | int (number : Int)
  /-- A truth value. -/
  | bool (flag : Bool)
  deriving DecidableEq, Repr

namespace Value

/-- Whether a value counts as set: all do but the empty text, zero and `false`. -/
def isTruthy : Value → Bool
  | text content => content != ""
  | int number => number != 0
  | bool flag => flag

/-- The text by which a value is looked up. -/
def keyText : Value → String
  | text content => content
  | int number => toString number
  | bool flag => Text.boolWord flag

/-- The text by which a value appears in C. -/
def cText : Value → String
  | text content => content
  | int number => toString number
  | bool flag => if flag then "1" else "0"

end Value

/-- Settings by their keys. -/
abbrev Settings := SortedMap String Value

/-- Whether a setting is there and counts as set. -/
def Settings.isTruthy (settings : Settings) (key : String) : Bool :=
  (settings.get? key).any Value.isTruthy

/-- A table from the key text of a value to another text. -/
abbrev ValueTable := SortedMap String String

end AvrSetup
