import AvrSetup.Peripheral
import AvrSetup.Pin

/-!
# Warnings of code generation

Parts of a configuration that the device does not provide are passed over, and each of them
gives a warning.
-/

namespace AvrSetup

/-- Something that is passed over. -/
inductive Warning where
  /-- A pin that the peripheral of a name does not reach. -/
  | unavailablePin (name : String) (pin : Pin)
  /-- The peripheral of a name, which has no pins to watch. -/
  | withoutPins (name : String)
  /-- A peripheral that a device does not have. -/
  | undescribed (peripheral : Peripheral) (device : String)
  deriving DecidableEq, Repr

/-- A warning on one line. -/
def Warning.message : Warning → String
  | unavailablePin name pin => name ++ " is not available on " ++ pin.name ++ ", skipping"
  | withoutPins name => name ++ " is configured without pins, skipping"
  | undescribed peripheral device =>
    peripheral.name ++ " is not described by the schema for " ++ device ++ ", skipping"

end AvrSetup
