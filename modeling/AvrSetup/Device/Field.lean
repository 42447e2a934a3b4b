import AvrSetup.Condition.Basic

/-!
# Settings fields

A peripheral declares the settings that it understands. A field says which values a
setting may have, whether it is given for each pin or for the peripheral as a whole, what
it is when it is not given, and when it matters at all.
-/

namespace AvrSetup

/-- What a setting, or a group of templates, belongs to. -/
inductive Scope where
  /-- Each pin by itself. -/
  | pin
  /-- The peripheral as a whole. -/
  | peripheral
  deriving DecidableEq, Repr

/-- The word for a scope. -/
def Scope.word : Scope → String
  | pin => "pin"
  | peripheral => "peripheral"

/-- The scope that a word names. -/
def Scope.ofWord? : String → Option Scope
  | "pin" => some pin
  | "peripheral" => some peripheral
  | _ => none

/-- The values that a setting may have. -/
inductive FieldKind where
  /-- One of some texts, or a value with such a key text. -/
  | choice (values : List String)
  /-- An integer in a range. -/
  | int (least greatest : Int)
  /-- A truth value. -/
  | flag
  deriving DecidableEq, Repr

/-- Whether a value is among those that a setting may have. -/
def FieldKind.admits : FieldKind → Value → Bool
  | choice values, value => values.contains value.keyText
  | int least greatest, .int number => decide (least ≤ number ∧ number ≤ greatest)
  | flag, .bool _ => true
  | _, _ => false

/-- A setting of a peripheral. -/
structure Field where
  /-- The key of the setting. -/
  key : String
  /-- How the setting is called in messages. -/
  name : String
  /-- The values that it may have. -/
  kind : FieldKind
  /-- What it belongs to. -/
  scope : Scope
  /-- Its value when it is not given. -/
  default : Value
  /-- When it matters. -/
  visible : Option Condition
  deriving DecidableEq, Repr

namespace Field

/-- Whether a field matters under a record of settings. -/
def isVisible (field : Field) (settings : Settings) : Bool :=
  Condition.holdsIfGiven field.visible settings

/-- Whether a field belongs to a scope: a pin has the fields of its peripheral as well. -/
def isIn (field : Field) (scope : Scope) : Bool := scope == .pin || field.scope == .peripheral

end Field

end AvrSetup
