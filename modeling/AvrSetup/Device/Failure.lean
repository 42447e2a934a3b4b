import AvrSetup.Condition.Reader
import AvrSetup.Peripheral
import AvrSetup.Pin
import AvrSetup.Template.Reader
import AvrSetup.Xml.Basic
import AvrSetup.Xml.Failure

/-!
# Faults of device descriptions

The reasons why a document is no description of a device, and where in the document they
are found.
-/

namespace AvrSetup.Device

/-- Why a document is no description of a device. -/
inductive Failure where
  /-- The text is no XML document. -/
  | xml (failure : Xml.Failure)
  /-- The root is another element. -/
  | unexpectedRoot (tag : String)
  /-- An element lacks an attribute. -/
  | expectedAttribute (tag name : String)
  /-- An attribute has a value that it may not have. -/
  | invalidAttribute (name value : String)
  /-- An element stands in one that may not hold it. -/
  | unexpectedElement (tag parent : String)
  /-- A word in a pin list names no pin. -/
  | invalidPin (failure : InvalidPin)
  /-- A word names no peripheral. -/
  | unknownPeripheral (failure : UnknownPeripheral)
  /-- A peripheral is described twice. -/
  | duplicatePeripheral (peripheral : Peripheral)
  /-- A pin is reached twice by the signals of a peripheral. -/
  | duplicatePin (peripheral : Peripheral) (pin : Pin)
  /-- A peripheral without pins has signals. -/
  | globalWithPins (peripheral : Peripheral)
  /-- Something refers to a field that is not declared. -/
  | undeclaredField (peripheral : Peripheral) (field : String)
  /-- An interrupt needs a signal that reaches no pin. -/
  | undeclaredSignal (peripheral : Peripheral) (signal : String)
  /-- The default of a field is not among its values. -/
  | invalidDefault (field default : String)
  /-- A value stands for a mode key that another value is given. -/
  | modeKeyCollision (peripheral : Peripheral) (value key mappedFrom : String)
  /-- A line is no template. -/
  | template (failure : Template.Failure)
  /-- A condition cannot be read. -/
  | condition (failure : InvalidClause)
  deriving DecidableEq, Repr

open Text in
/-- What is wrong with a document that is no description of a device. -/
def Failure.message : Failure → String
  | xml failure => "malformed XML: " ++ failure.message
  | unexpectedRoot tag => "expected root element <device>, found <" ++ tag ++ ">"
  | expectedAttribute tag name =>
    "expected attribute " ++ quoted name ++ " in element " ++ quoted tag
  | invalidAttribute name value =>
    "invalid value " ++ quoted value ++ " for attribute " ++ quoted name
  | unexpectedElement tag parent => "unexpected element <" ++ tag ++ "> in <" ++ parent ++ ">"
  | invalidPin failure => failure.message
  | unknownPeripheral failure => failure.message
  | duplicatePeripheral peripheral =>
    "peripheral " ++ peripheral.name ++ " is declared more than once"
  | duplicatePin peripheral pin =>
    "pin " ++ pin.name ++ " is mapped more than once in peripheral " ++ peripheral.name
  | globalWithPins peripheral =>
    "global peripheral " ++ peripheral.name ++ " cannot map signals to pins"
  | undeclaredField peripheral field =>
    "field " ++ quoted field ++ " referenced by peripheral " ++ peripheral.name ++
      " is not declared"
  | undeclaredSignal peripheral signal =>
    "signal " ++ quoted signal ++ " is not mapped by peripheral " ++ peripheral.name
  | invalidDefault field default =>
    "default value " ++ quoted default ++ " is not valid for field " ++ quoted field
  | modeKeyCollision peripheral value key mappedFrom =>
    "mode key collision in " ++ peripheral.name ++ ": value " ++ quoted value ++
      " derives key " ++ quoted key ++ " which is also mapped explicitly from " ++
      quoted mappedFrom
  | template failure => failure.message
  | condition failure => failure.message

/-- A fault and where it is found. -/
structure Fault where
  /-- The stretch of the document with the fault. -/
  span : Xml.Span
  /-- The fault. -/
  cause : Failure
  deriving DecidableEq, Repr

/-- What is wrong and where. -/
def Fault.message (fault : Fault) : String := fault.span.text ++ "\n" ++ fault.cause.message

end AvrSetup.Device
