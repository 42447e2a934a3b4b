import AvrSetup.Peripheral
import AvrSetup.Pin
import AvrSetup.Setting.Value

/-!
# Configurations

A configuration says what is wanted of the chip: which peripherals are used, on which pins
and with which settings. The state of a peripheral has one of three shapes: it takes pins,
or is only asked for one interrupt, or has no pins at all and is switched on or off.
-/

namespace AvrSetup

/-- Which interrupts are explicitly enabled or disabled, by name. -/
abbrev InterruptSwitches := SortedMap String Bool

/-- What is wanted of one peripheral. -/
inductive State where
  /-- The peripheral takes pins, each with settings of its own. -/
  | pinBound (pins : SortedMap Pin Settings) (settings : Settings) (interrupts : InterruptSwitches)
  /-- Only one interrupt is wanted, and no pin is taken. -/
  | interruptOnly (interrupt : String) (settings : Settings)
  /-- The peripheral has no pins and is on or off. -/
  | global (enabled : Bool) (settings : Settings) (interrupts : InterruptSwitches)
  deriving DecidableEq

namespace State

/-- The settings of the peripheral as a whole. -/
def settings : State → Settings
  | pinBound _ settings _ => settings
  | interruptOnly _ settings => settings
  | global _ settings _ => settings

/-- The state with other settings for the peripheral as a whole. -/
def withSettings (state : State) (settings : Settings) : State :=
  match state with
  | .pinBound pins _ interrupts => .pinBound pins settings interrupts
  | .interruptOnly interrupt _ => .interruptOnly interrupt settings
  | .global enabled _ interrupts => .global enabled settings interrupts

/-- The state with one interrupt enabled or disabled. The state that asks for one interrupt
only stays as it is. -/
def withInterrupt (state : State) (name : String) (enabled : Bool) : State :=
  match state with
  | .pinBound pins settings interrupts => .pinBound pins settings (interrupts.insert name enabled)
  | .interruptOnly interrupt settings => .interruptOnly interrupt settings
  | .global on settings interrupts => .global on settings (interrupts.insert name enabled)

/-- The settings of the pins that are taken. -/
def pinSettings : State → SortedMap Pin Settings
  | pinBound pins _ _ => pins
  | interruptOnly .. => ∅
  | global .. => ∅

/-- The pins that are taken, ascending. -/
def occupiedPins (state : State) : List Pin := state.pinSettings.keys

/-- Whether a pin is taken. -/
def occupies (state : State) (pin : Pin) : Bool := state.pinSettings.contains pin

/-- Whether the state asks for any code at all. -/
def isActive : State → Bool
  | pinBound pins _ _ => !pins.isEmpty
  | interruptOnly .. => true
  | global enabled _ _ => enabled

/-- What the state says about an interrupt, if it does. -/
def interruptEnabled? (state : State) (name : String) : Option Bool :=
  match state with
  | .pinBound _ _ interrupts => interrupts.get? name
  | .interruptOnly interrupt _ => some (interrupt == name)
  | .global _ _ interrupts => interrupts.get? name

/-- The interrupts that the state names, with what it says about them. -/
def interruptEntries : State → List (String × Bool)
  | pinBound _ _ interrupts => interrupts.entries
  | interruptOnly interrupt _ => [(interrupt, true)]
  | global _ _ interrupts => interrupts.entries

end State

/-- What is wanted of the chip: a state for each peripheral that is used. -/
abbrev Configuration := SortedMap Peripheral State

/-- The peripherals that ask for code, ascending. -/
def Configuration.active (configuration : Configuration) : List (Peripheral × State) :=
  configuration.entries.filter fun entry => entry.2.isActive

end AvrSetup
