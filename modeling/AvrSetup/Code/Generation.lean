import AvrSetup.Code.Assembly
import AvrSetup.Code.PinChange
import AvrSetup.Code.Rendering

/-!
# Code for a configuration

The peripherals of a device contribute in the order in which it describes them, and the
pin-change interrupts at their place or else last. Peripherals that the device does not have
are passed over.
-/

namespace AvrSetup

/-- A contribution to the code. -/
inductive Stage where
  /-- An active peripheral. -/
  | peripheral (descriptor : Descriptor) (state : State)
  /-- The pin-change interrupts of all peripherals. -/
  | pinChange
  deriving DecidableEq

namespace Descriptor

/-- The contribution that a peripheral makes at its place. -/
def stage? (descriptor : Descriptor) (configuration : Configuration) : Option Stage :=
  if descriptor.id.feedsPinChange then some .pinChange
  else ((configuration.get? descriptor.id).filter State.isActive).map (.peripheral descriptor)

/-- What is passed over in the state of a peripheral. -/
def warnings (descriptor : Descriptor) (state : State) : List Warning :=
  if state.isActive then (descriptor.unavailablePins state).map (.unavailablePin descriptor.name)
  else []

end Descriptor

namespace Device

/-- All contributions, in order. -/
def stages (device : Device) (configuration : Configuration) : List Stage :=
  device.peripherals.filterMap (fun descriptor => descriptor.stage? configuration) ++
    if device.peripherals.any fun descriptor => descriptor.id.feedsPinChange then []
    else [.pinChange]

/-- The code of a contribution. -/
def expandStage (device : Device) (configuration : Configuration) (clock : Option Nat) :
    Stage → Except CodeFailure (List Expansion)
  | .peripheral descriptor state => return [← descriptor.expand state clock]
  | .pinChange => return (PinChange.expansion? device configuration).toList

/-- What is passed over in a contribution. -/
def stageWarnings (device : Device) (configuration : Configuration) : Stage → List Warning
  | .peripheral descriptor state => descriptor.warnings state
  | .pinChange => PinChange.warnings device configuration

/-- The active peripherals that the device does not have. -/
def undescribed (device : Device) (configuration : Configuration) : List Peripheral :=
  (configuration.active.map (·.1)).filter fun id => (device.descriptor? id).isNone

/-- The expansions of all contributions. -/
def expansions (device : Device) (configuration : Configuration) (clock : Option Nat) :
    Except CodeFailure (List Expansion) :=
  ((device.stages configuration).mapM (device.expandStage configuration clock)).map List.flatten

/-- The code for a configuration. The given frequency of the clock takes the place of the
one of the device. -/
def generate (device : Device) (configuration : Configuration) (clock : Option Nat) :
    Except CodeFailure Artifact := do
  assemble device.name (← device.expansions configuration (clock <|> device.clock))

/-- All that is passed over, in the order in which the code is generated. -/
def warnings (device : Device) (configuration : Configuration) : List Warning :=
  (device.stages configuration).flatMap (device.stageWarnings configuration) ++
    (device.undescribed configuration).map fun id => .undescribed id device.name

end Device

end AvrSetup
