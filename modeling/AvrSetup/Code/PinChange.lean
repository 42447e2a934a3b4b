import AvrSetup.Code.Expansion
import AvrSetup.Code.Job
import AvrSetup.Code.Warning
import AvrSetup.Device.Basic

/-!
# Pin-change interrupts

Two peripherals ask for pin-change interrupts: the one that is named after them, and plain
input, for pins with a flag. All requests are pooled, so that a pin counts once however often
it is asked for, and the pins of a port share one enable bit, one mask and one handler.
-/

namespace AvrSetup.PinChange

/-- Which peripheral asks for a pin. -/
inductive Origin where
  /-- The pin is assigned to the pin-change interrupts. -/
  | explicit
  /-- The pin is a plain input with the flag for them. -/
  | flagged
  deriving DecidableEq, Repr

/-- That a change of a pin is to be noticed. -/
structure Request where
  /-- The pin. -/
  pin : Pin
  /-- Whether its pull-up resistor is to be switched on. -/
  pullUp : Bool
  /-- Which peripheral asks for it. -/
  origin : Origin
  deriving DecidableEq, Repr

/-- The pins that are asked for, and whether any request for them wants the pull-up. -/
abbrev Pool := SortedMap Pin Bool

namespace Pool

/-- The pool with one more request. -/
def add (pool : Pool) (request : Request) : Pool :=
  pool.insert request.pin ((pool.get? request.pin).getD false || request.pullUp)

/-- The pool with more requests. -/
def addAll (pool : Pool) (requests : List Request) : Pool := requests.foldl add pool

/-- The pool of a list of requests. -/
def ofRequests (requests : List Request) : Pool := addAll ∅ requests

/-- The pins of a port, ascending. -/
def pinsOn (pool : Pool) (port : Port) : List (Pin × Bool) :=
  pool.entries.filter fun entry => entry.1.port == port

/-- The ports with pins in the pool, ascending, with these pins. -/
def groups (pool : Pool) : List (Port × List (Pin × Bool)) :=
  (Port.all.map fun port => (port, pool.pinsOn port)).filter fun group => !group.2.isEmpty

end Pool

/-! ## Requests of a configuration -/

/-- The pins that a configuration assigns to a peripheral, as far as it reaches them, with
the settings in force for them. -/
def configuredPins (device : Device) (configuration : Configuration) (id : Peripheral) :
    List (Pin × Settings) :=
  match device.descriptor? id, configuration.get? id with
  | some descriptor, some state =>
    (state.pinSettings.entries.filter fun entry => descriptor.declaresPin entry.1).map
      fun (pin, given) => (pin, descriptor.pinSettings state.settings given)
  | _, _ => []

/-- What is passed over when the pins of a peripheral are looked through. -/
def configuredPinWarnings (device : Device) (configuration : Configuration) (id : Peripheral) :
    List Warning :=
  match device.descriptor? id, configuration.get? id with
  | some descriptor, some (.pinBound pins settings interrupts) =>
    (descriptor.unavailablePins (.pinBound pins settings interrupts)).map
      (.unavailablePin descriptor.name)
  | some descriptor, some _ => [.withoutPins descriptor.name]
  | _, _ => []

/-- The requests of the pins that are assigned to the pin-change interrupts. -/
def explicitRequests (device : Device) (configuration : Configuration) : List Request :=
  (configuredPins device configuration .pcint).map fun (pin, settings) =>
    ⟨pin, settings.isTruthy "pullup", .explicit⟩

/-- Whether plain input is configured with the pull-up. -/
def isPulledUp (settings : Settings) : Bool :=
  (settings.get? "mode").any fun value => value.keyText == "INPUT_PULLUP"

/-- The requests of the plain pins with the flag. -/
def flaggedRequests (device : Device) (configuration : Configuration) : List Request :=
  ((configuredPins device configuration .gpio).filter fun entry => entry.2.isTruthy "pcint").map
    fun (pin, settings) => ⟨pin, isPulledUp settings, .flagged⟩

/-- All requests. -/
def requests (device : Device) (configuration : Configuration) : List Request :=
  explicitRequests device configuration ++ flaggedRequests device configuration

/-- What is passed over when all requests are gathered. -/
def warnings (device : Device) (configuration : Configuration) : List Warning :=
  configuredPinWarnings device configuration .pcint ++
    configuredPinWarnings device configuration .gpio

/-! ## Code for a pool -/

/-- The statement that sets one bit of a register. -/
def setBit (register bit : String) : String := register ++ " |= _BV(" ++ bit ++ ");"

/-- The name of the pin-change line of a pin. -/
def lineName (pin : Pin) : String := "PCINT" ++ toString pin.line

/-- The lines that make a pin an input. -/
def inputLines (pin : Pin) (pullUp : Bool) : List String :=
  let port := pin.port.letter
  let bit := toString pin.bit.val
  ["DDR" ++ port ++ " &= ~_BV(DD" ++ port ++ bit ++ ");"] ++
    if pullUp then [setBit ("PORT" ++ port) ("PORT" ++ port ++ bit)] else []

/-- The lines that enable the interrupt of a port for some of its pins. -/
def enableLines (port : Port) (pins : List (Pin × Bool)) : List String :=
  let lines := pins.map fun entry => "_BV(" ++ lineName entry.1 ++ ")"
  pins.flatMap (fun (pin, pullUp) => inputLines pin pullUp) ++
    [setBit "PCICR" port.enableBit,
      port.maskRegister ++ " |= " ++ String.intercalate " | " lines ++ ";"]

/-- The lines that are run when a pin has changed. -/
def changeLines (pin : Pin) : List String :=
  ["if (changed & _BV(PIN" ++ pin.port.letter ++ toString pin.bit.val ++ ")) \x7b",
    "    /* " ++ pin.name ++ " (" ++ lineName pin ++ ") changed */", "\x7d"]

/-- The handler for some pins of a port. It keeps the last state of the port, so that it can
tell which of them have changed. -/
def handler (port : Port) (pins : List (Pin × Bool)) : Handler :=
  ⟨port.vector, port.groupLabel,
    ["static uint8_t previous;", "uint8_t pins = PIN" ++ port.letter ++ ";",
      "uint8_t changed = pins ^ previous;", "previous = pins;"] ++
      pins.flatMap fun entry => changeLines entry.1⟩

/-- The code for some pins of a port. -/
def emission (routine : Signature) (port : Port) (pins : List (Pin × Bool)) : Emission :=
  ⟨⟨routine, [], enableLines port pins⟩, [], some (handler port pins)⟩

/-- The routine that the code goes to: that of the peripheral, or a plain one where the device
does not describe it. -/
def routine (device : Device) : Signature :=
  match device.descriptor? .pcint with
  | some descriptor => descriptor.signature
  | none => .plain "pcint_init"

/-- The code for all requests of a configuration, if there are any. -/
def expansion? (device : Device) (configuration : Configuration) : Option Expansion :=
  match (Pool.ofRequests (requests device configuration)).groups with
  | [] => none
  | groups => some (.ofEmissions .pcint
      (groups.map fun (port, pins) => emission (routine device) port pins))

end AvrSetup.PinChange
