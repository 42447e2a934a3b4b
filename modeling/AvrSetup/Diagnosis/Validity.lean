import AvrSetup.Configuration.Basic
import AvrSetup.Device.Basic
import AvrSetup.Diagnosis.Basic

/-!
# Does a configuration fit the device?

Everything that a configuration mentions has to be described by the device: peripherals,
pins, settings with their values, and interrupts. A state whose shape its peripheral cannot
have is not looked into any further, and the settings of an undeclared pin neither.
-/

namespace AvrSetup

namespace Descriptor

/-- What is wrong with one setting, given for the peripheral or for one pin. -/
def settingProblems (descriptor : Descriptor) (pin : Option Pin) (key : String) (value : Value) :
    List Diagnostic :=
  let problem (topic : Topic) (message : String) : Diagnostic :=
    ⟨.error, topic, descriptor.id, pin, some key, message⟩
  match descriptor.field? key with
  | none => [problem .unknownField (descriptor.name ++ " has no setting " ++ Text.quoted key)]
  | some field =>
    let misplaced := problem .misplacedField (Text.quoted field.name ++
      " applies to the whole peripheral and cannot be set per pin")
    let invalid := problem .invalidValue (Text.quoted value.keyText ++
      " is not a valid value for " ++ Text.quoted field.name)
    (if pin.isSome && field.scope == .peripheral then [misplaced] else []) ++
      (if field.kind.admits value then [] else [invalid])

/-- What is wrong with a record of settings. -/
def recordProblems (descriptor : Descriptor) (pin : Option Pin) (settings : Settings) :
    List Diagnostic :=
  settings.entries.flatMap fun (key, value) => descriptor.settingProblems pin key value

/-- What is wrong with one pin and its settings. -/
def pinProblems (descriptor : Descriptor) (pin : Pin) (settings : Settings) : List Diagnostic :=
  if descriptor.declaresPin pin then descriptor.recordProblems (some pin) settings
  else [(Diagnostic.error .undeclaredPin descriptor.id
    (descriptor.name ++ " is not available on pin " ++ pin.name)).atPin pin]

/-- The declared pins that a state does not take. -/
def missingPins (descriptor : Descriptor) (state : State) : List Pin :=
  descriptor.declaredPins.filter fun pin => !state.occupies pin

/-- The warning that some pins are missing, if all of them are needed and some are taken. -/
def incompleteProblems (descriptor : Descriptor) (state : State) : List Diagnostic :=
  let missing := descriptor.missingPins state
  if descriptor.needsAllPins && !state.occupiedPins.isEmpty && !missing.isEmpty then
    [.warning .incompletePinSet descriptor.id (descriptor.name ++
      " needs all of its pins, missing: " ++ String.intercalate ", " (missing.map Pin.name))]
  else []

/-- The interrupts that a state names and the peripheral does not have. -/
def interruptProblems (descriptor : Descriptor) (state : State) : List Diagnostic :=
  (state.interruptEntries.filter fun entry => (descriptor.interrupt? entry.1).isNone).map
    fun entry => .error .unknownInterrupt descriptor.id
      (descriptor.name ++ " has no interrupt " ++ Text.quoted entry.1)

/-- What is wrong with the shape of a state. Pin-change interrupts are watched pin by pin, so
that they cannot be asked for without pins. -/
def shapeProblem? (descriptor : Descriptor) (state : State) : Option Diagnostic :=
  let problem (message : String) : Option Diagnostic :=
    some (.error .stateShape descriptor.id message)
  let otherFootprint := problem (descriptor.name ++ " is a " ++ descriptor.footprint.word ++
    " peripheral")
  match descriptor.footprint, state with
  | .pinBound, .pinBound .. => none
  | .pinBound, .interruptOnly .. =>
    if descriptor.id.feedsPinChange then
      problem (descriptor.name ++ " must be given the pins to watch")
    else none
  | .pinBound, .global .. => otherFootprint
  | .global, .global .. => none
  | .global, _ => otherFootprint

/-- What is wrong with the state of a peripheral. -/
def stateProblems (descriptor : Descriptor) (state : State) : List Diagnostic :=
  match descriptor.shapeProblem? state with
  | some problem => [problem]
  | none =>
    descriptor.recordProblems none state.settings ++
      state.pinSettings.entries.flatMap (fun (pin, settings) =>
        descriptor.pinProblems pin settings) ++
      descriptor.incompleteProblems state ++ descriptor.interruptProblems state

end Descriptor

/-- What is wrong with one member of a configuration. -/
def Device.entryProblems (device : Device) (peripheral : Peripheral) (state : State) :
    List Diagnostic :=
  match device.descriptor? peripheral with
  | some descriptor => descriptor.stateProblems state
  | none => [.error .unknownPeripheral peripheral
      (peripheral.name ++ " is not described by the schema for " ++ device.name)]

/-- What is wrong with a configuration, peripheral by peripheral. -/
def Device.problems (device : Device) (configuration : Configuration) : List Diagnostic :=
  configuration.entries.flatMap fun (peripheral, state) => device.entryProblems peripheral state

end AvrSetup
