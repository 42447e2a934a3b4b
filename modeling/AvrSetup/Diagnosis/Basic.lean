import AvrSetup.Json.Basic
import AvrSetup.Peripheral
import AvrSetup.Pin

/-!
# Diagnostics

A diagnostic is a remark on a configuration. It is about one peripheral, and perhaps about
one of its pins and one of its settings. Diagnostics inform: nothing is refused because of
them.
-/

namespace AvrSetup

/-- How serious a diagnostic is. -/
inductive Severity where
  /-- Something looks unintended. -/
  | warning
  /-- Something does not fit the description of the device. -/
  | error
  deriving DecidableEq, Repr

/-- The word for a severity. -/
def Severity.word : Severity → String
  | warning => "warning"
  | error => "error"

/-- What a diagnostic is about. -/
inductive Topic where
  /-- Peripherals share a pin although a rule forbids it. -/
  | conflict
  /-- The device has no such peripheral. -/
  | unknownPeripheral
  /-- The peripheral does not reach the pin. -/
  | undeclaredPin
  /-- The peripheral has no such setting. -/
  | unknownField
  /-- A setting of the whole peripheral is given for a pin. -/
  | misplacedField
  /-- The setting may not have the value. -/
  | invalidValue
  /-- The peripheral has no such interrupt. -/
  | unknownInterrupt
  /-- The state has a shape that the peripheral cannot have. -/
  | stateShape
  /-- Peripherals share a pin, and no rule is about it. -/
  | sharedPin
  /-- Some of the pins of a peripheral that needs all of them are missing. -/
  | incompletePinSet
  deriving DecidableEq, Repr

namespace Topic

/-- All topics. -/
def all : List Topic :=
  [conflict, unknownPeripheral, undeclaredPin, unknownField, misplacedField, invalidValue,
    unknownInterrupt, stateShape, sharedPin, incompletePinSet]

/-- The word for a topic. -/
def word : Topic → String
  | conflict => "conflict"
  | unknownPeripheral => "unknown_peripheral"
  | undeclaredPin => "undeclared_pin"
  | unknownField => "unknown_field"
  | misplacedField => "misplaced_field"
  | invalidValue => "invalid_value"
  | unknownInterrupt => "unknown_interrupt"
  | stateShape => "state_shape"
  | sharedPin => "shared_pin"
  | incompletePinSet => "incomplete_pin_set"

/-- The topic that a word names. -/
def ofWord? (word : String) : Option Topic := all.find? fun topic => topic.word == word

end Topic

/-- A remark on a configuration. -/
structure Diagnostic where
  /-- How serious it is. -/
  severity : Severity
  /-- What it is about. -/
  topic : Topic
  /-- The peripheral that it is about. -/
  peripheral : Peripheral
  /-- The pin that it is about. -/
  pin : Option Pin
  /-- The key of the setting that it is about. -/
  field : Option String
  /-- What it says. -/
  message : String
  deriving DecidableEq, Repr

namespace Diagnostic

/-- An error in what is wanted of a peripheral. -/
def error (topic : Topic) (peripheral : Peripheral) (message : String) : Diagnostic :=
  ⟨.error, topic, peripheral, none, none, message⟩

/-- A warning about what is wanted of a peripheral. -/
def warning (topic : Topic) (peripheral : Peripheral) (message : String) : Diagnostic :=
  ⟨.warning, topic, peripheral, none, none, message⟩

/-- The diagnostic, narrowed down to a pin. -/
def atPin (diagnostic : Diagnostic) (pin : Pin) : Diagnostic := { diagnostic with pin := some pin }

/-- Whether a diagnostic is an error. -/
def isError (diagnostic : Diagnostic) : Bool := diagnostic.severity == .error

/-- A diagnostic on one line. -/
def text (diagnostic : Diagnostic) : String :=
  let pin := match diagnostic.pin with
    | some pin => " " ++ pin.name
    | none => ""
  let field := match diagnostic.field with
    | some key => " [" ++ key ++ "]"
    | none => ""
  diagnostic.severity.word ++ ": " ++ diagnostic.peripheral.name ++ pin ++ field ++ ": " ++
    diagnostic.message

/-- A diagnostic for other programs to read. -/
def toJson (diagnostic : Diagnostic) : Json :=
  .object
    [("severity", .string diagnostic.severity.word), ("kind", .string diagnostic.topic.word),
      ("peripheral", .string diagnostic.peripheral.name),
      ("pin", .ofText? (diagnostic.pin.map Pin.name)), ("field", .ofText? diagnostic.field),
      ("message", .string diagnostic.message)]

end Diagnostic

end AvrSetup
