import AvrSetup.Device.Descriptor

/-!
# Descriptions of chips

A device is a chip with its peripherals, and the rules that forbid some of them to share
pins with others.
-/

namespace AvrSetup

/-- Pins that other peripherals may not use while one peripheral does. -/
structure ConflictRule where
  /-- The pins. -/
  pins : List Pin
  /-- The peripheral that reserves them. -/
  trigger : Peripheral
  /-- The peripherals that are kept away: all others if none is given. -/
  others : List Peripheral
  /-- What is said about a violation. -/
  message : String
  deriving DecidableEq, Repr

/-- Whether a rule keeps a peripheral away from its pins. -/
def ConflictRule.forbids (rule : ConflictRule) (other : Peripheral) : Bool :=
  other != rule.trigger && (rule.others.isEmpty || rule.others.contains other)

/-- A chip. -/
structure Device where
  /-- The name of the chip. -/
  name : String
  /-- The frequency of its clock, if that is fixed. -/
  clock : Option Nat
  /-- Its peripherals, in the order in which their code appears. -/
  peripherals : List Descriptor
  /-- The rules on shared pins. -/
  rules : List ConflictRule
  deriving DecidableEq

/-- The description of a peripheral. -/
def Device.descriptor? (device : Device) (id : Peripheral) : Option Descriptor :=
  device.peripherals.find? fun descriptor => descriptor.id == id

end AvrSetup
