import AvrSetup.Configuration.Basic
import AvrSetup.Resolution

/-!
# Which code a state asks for

A state is turned into a list of jobs: groups of templates and interrupts, each with the
parameters to fill them with. Groups for the peripheral come first, then those for each pin
in the order in which the signals declare them, then the interrupts. Nothing can fail here.
-/

namespace AvrSetup

/-- A piece of code to be filled in. -/
inductive Job where
  /-- A group of templates. -/
  | group (set : TemplateSet) (parameters : Parameters)
  /-- What enables an interrupt, and its handler. -/
  | interrupt (interrupt : Interrupt) (parameters : Parameters)
  deriving DecidableEq

/-- The parameters with the names that stand for a pin, and with its signal. -/
def Parameters.atPin (parameters : Parameters) (pin : Pin) (signal : String) : Parameters :=
  parameters.overlay (.ofList (pin.symbols ++ [("signal", signal)]))

namespace Descriptor

/-- The key of the templates that are taken when no other key leads to any. -/
def initKey : String := "init"

/-- The settings of the peripheral as a whole that are in force. -/
def peripheralSettings (descriptor : Descriptor) (state : State) : Settings :=
  state.settings.effective descriptor.fields .peripheral

/-- The settings that are in force for a pin. -/
def pinSettings (descriptor : Descriptor) (shared given : Settings) : Settings :=
  Settings.effective descriptor.fields .pin (shared.overlay given)

/-- The parameters that settings stand for. -/
def parametersOf (descriptor : Descriptor) (settings : Settings) : Parameters :=
  (settings.tabulated descriptor.tables).mapValues fun _ value => value.cText

/-- The groups of templates under the first of some keys that leads to any that apply. -/
def selected (descriptor : Descriptor) (scope : Scope) (keys : List String)
    (settings : Settings) : List TemplateSet :=
  let candidates := keys.map fun key =>
    (descriptor.templateSets scope key).filter fun set => set.appliesTo settings
  (candidates.find? fun sets => !sets.isEmpty).getD []

/-- The groups for the peripheral: under its mode key, else under the last resort. -/
def peripheralSets (descriptor : Descriptor) (settings : Settings) : List TemplateSet :=
  descriptor.selected .peripheral ((settings.modeKey? descriptor.mode).toList ++ [initKey]) settings

/-- The groups for a peripheral of which only one interrupt is wanted: those under the name
of the interrupt, else those for the peripheral. -/
def interruptSets (descriptor : Descriptor) (interrupt : String) (settings : Settings) :
    List TemplateSet :=
  match descriptor.selected .peripheral [interrupt] settings with
  | [] => descriptor.peripheralSets settings
  | sets => sets

/-- The groups for a pin: under its mode key, else under its signal, else under the last
resort. -/
def pinSets (descriptor : Descriptor) (signal : String) (settings : Settings) :
    List TemplateSet :=
  descriptor.selected .pin ((settings.modeKey? descriptor.mode).toList ++ [signal, initKey])
    settings

/-- The jobs for a pin. -/
def pinJobs (descriptor : Descriptor) (shared : Settings) (signal : String) (pin : Pin)
    (given : Settings) : List Job :=
  let settings := descriptor.pinSettings shared given
  (descriptor.pinSets signal settings).map fun set =>
    .group set ((descriptor.parametersOf settings).atPin pin signal)

/-- The pins that signals reach, with the signals, in the order of declaration. -/
def wiring (descriptor : Descriptor) : List (String × Pin) :=
  descriptor.signals.flatMap fun signal => signal.pins.map (signal.name, ·)

/-- The pin that carries a signal for an interrupt: one that is taken, or the first one if
only this interrupt is wanted. -/
def carrier? (descriptor : Descriptor) (state : State) (interrupt signal : String) :
    Option Pin :=
  match state with
  | .interruptOnly wanted _ =>
    if wanted = interrupt then (descriptor.pinsOf signal).head? else none
  | _ => (descriptor.pinsOf signal).find? state.occupies

/-- The pins that are set up for a state, with their signals and settings. -/
def pinsInUse (descriptor : Descriptor) (state : State) : List (String × Pin × Settings) :=
  match state with
  | .pinBound pins _ _ =>
    descriptor.wiring.filterMap fun (signal, pin) =>
      (pins.get? pin).map fun given => (signal, pin, given)
  | .interruptOnly wanted _ => Option.toList do
    let signal ← (← descriptor.interrupt? wanted).signal
    let pin ← descriptor.carrier? state wanted signal
    return (signal, pin, ∅)
  | .global .. => []

/-- The groups for the peripheral as a whole. -/
def sharedSets (descriptor : Descriptor) (state : State) (settings : Settings) :
    List TemplateSet :=
  match state with
  | .interruptOnly wanted _ => descriptor.interruptSets wanted settings
  | _ => descriptor.peripheralSets settings

/-- Whether an interrupt is wanted: the state decides, or else its default. -/
def isEnabled (state : State) (interrupt : Interrupt) : Bool :=
  (state.interruptEnabled? interrupt.name).getD interrupt.enabledByDefault

/-- The job for an interrupt, if it is wanted and possible. An interrupt that needs a signal
is possible only with a pin that carries it. -/
def interruptJob? (descriptor : Descriptor) (state : State) (settings : Settings)
    (interrupt : Interrupt) : Option Job :=
  if isEnabled state interrupt && Condition.holdsIfGiven interrupt.applies settings then
    let parameters := descriptor.parametersOf settings
    let job (parameters : Parameters) : Job := .interrupt interrupt
      ((parameters.insert "vector" interrupt.vector).insert "label" interrupt.label)
    match interrupt.signal with
    | none => some (job parameters)
    | some signal => (descriptor.carrier? state interrupt.name signal).map fun pin =>
      job (parameters.atPin pin signal)
  else none

/-- The jobs for a state. -/
def jobs (descriptor : Descriptor) (state : State) : List Job :=
  let settings := descriptor.peripheralSettings state
  (descriptor.sharedSets state settings).map
      (fun set => .group set (descriptor.parametersOf settings)) ++
    (descriptor.pinsInUse state).flatMap (fun (signal, pin, given) =>
      descriptor.pinJobs settings signal pin given) ++
    descriptor.interrupts.filterMap (descriptor.interruptJob? state settings)

/-- The pins that a state takes although the peripheral does not reach them. -/
def unavailablePins (descriptor : Descriptor) (state : State) : List Pin :=
  state.occupiedPins.filter fun pin => !descriptor.declaresPin pin

end Descriptor

end AvrSetup
