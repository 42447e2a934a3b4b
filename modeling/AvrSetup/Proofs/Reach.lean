import AvrSetup.Code.Generation
import AvrSetup.Proofs.SingleInterrupt
import Mathlib.Data.List.Find

/-!
# Pins out of reach

A state may take pins that no signal of the peripheral reaches. They are passed over with a
warning. Here it is shown that they have no other effect: where a peripheral takes some pin that
it does reach, the others may be left out, and the code, or the failure, stays the same
(`Device.generate_trimmed`). A state that takes no pin within reach must keep the others, since
it would not be active without them.
-/

namespace AvrSetup

/-- Keys that pass a test keep their values when the others are left out. -/
theorem SortedMap.get?_filterKeys_of_pos {α β : Type} [Ord α] [Std.LawfulEqOrd α] {p : α → Bool}
    {key : α} (hkey : p key = true) (map : SortedMap α β) :
    (map.filterKeys p).get? key = map.get? key := by
  rw [get?_filterKeys, if_pos hkey]

namespace State

/-- The state with those of its pins that pass a test. -/
def keepPins (p : Pin → Bool) : State → State
  | pinBound pins settings interrupts => pinBound (pins.filterKeys p) settings interrupts
  | interruptOnly interrupt settings => interruptOnly interrupt settings
  | global enabled settings interrupts => global enabled settings interrupts

variable {p : Pin → Bool} {pin : Pin}

@[simp] theorem settings_keepPins (state : State) :
    (state.keepPins p).settings = state.settings := by
  cases state <;> rfl

@[simp] theorem interruptEnabled?_keepPins (state : State) (name : String) :
    (state.keepPins p).interruptEnabled? name = state.interruptEnabled? name := by
  cases state <;> rfl

theorem pinSettings_keepPins (state : State) :
    (state.keepPins p).pinSettings = state.pinSettings.filterKeys p := by
  cases state <;> rfl

/-- A pin that passes the test is taken as before. -/
theorem occupies_keepPins (hpin : p pin = true) (state : State) :
    (state.keepPins p).occupies pin = state.occupies pin := by
  have hget : (state.keepPins p).pinSettings.get? pin = state.pinSettings.get? pin := by
    rw [pinSettings_keepPins, SortedMap.get?_filterKeys_of_pos hpin]
  rw [occupies, occupies, SortedMap.contains, SortedMap.contains, hget]

/-- A state that takes a pin is active. -/
theorem isActive_of_occupiedPins {state : State} (h : pin ∈ state.occupiedPins) :
    state.isActive = true := by
  cases state with
  | pinBound pins settings interrupts =>
    have hne : pins.entries ≠ [] := by
      intro hnil
      change pin ∈ pins.entries.map (·.1) at h
      rw [hnil] at h
      cases h
    simpa [isActive, SortedMap.isEmpty] using hne
  | interruptOnly interrupt settings => rfl
  | global enabled settings interrupts => cases h

/-- A pin that is taken and passes the test is among those that are kept. -/
theorem mem_occupiedPins_keepPins {state : State} (h : pin ∈ state.occupiedPins)
    (hpin : p pin = true) : pin ∈ (state.keepPins p).occupiedPins := by
  unfold occupiedPins at h ⊢
  rw [pinSettings_keepPins, SortedMap.mem_keys_iff, SortedMap.get?_filterKeys_of_pos hpin]
  exact SortedMap.mem_keys_iff.mp h

end State

namespace Descriptor

variable {descriptor : Descriptor}

/-- The state without the pins that the peripheral does not reach. If it takes no others, it
stays as it is. -/
def trimmed (descriptor : Descriptor) (state : State) : State :=
  if state.occupiedPins.any descriptor.declaresPin then state.keepPins descriptor.declaresPin
  else state

/-- What a signal reaches is within reach of the peripheral. -/
theorem declaresPin_of_pinsOf {signal : String} {pin : Pin}
    (hpin : pin ∈ descriptor.pinsOf signal) : descriptor.declaresPin pin = true :=
  List.contains_iff_mem.mpr (mem_declaredPins_of_pinsOf hpin)

/-! ## Jobs -/

/-- Leaving out pins does not change the groups for the peripheral. -/
theorem sharedSets_keepPins (p : Pin → Bool) (state : State) (settings : Settings) :
    descriptor.sharedSets (state.keepPins p) settings = descriptor.sharedSets state settings := by
  cases state <;> rfl

/-- An interrupt finds the same pin when only pins out of reach are left out. -/
theorem carrier?_keepPins (state : State) (interrupt signal : String) :
    descriptor.carrier? (state.keepPins descriptor.declaresPin) interrupt signal =
      descriptor.carrier? state interrupt signal := by
  have hfind : (descriptor.pinsOf signal).find? (state.keepPins descriptor.declaresPin).occupies =
      (descriptor.pinsOf signal).find? state.occupies := by
    apply List.find?_congr
    intro pin hpin
    exact State.occupies_keepPins (declaresPin_of_pinsOf hpin) state
  cases state with
  | pinBound pins settings interrupts => exact hfind
  | interruptOnly wanted settings => rfl
  | global enabled settings interrupts => rfl

/-- The same pins are set up when only pins out of reach are left out. -/
theorem pinsInUse_keepPins (state : State) :
    descriptor.pinsInUse (state.keepPins descriptor.declaresPin) = descriptor.pinsInUse state := by
  cases state with
  | pinBound pins settings interrupts =>
    unfold pinsInUse
    apply List.filterMap_congr
    rintro ⟨name, pin⟩ hpin
    obtain ⟨signal, hsignal, hmem⟩ := List.mem_flatMap.mp hpin
    obtain ⟨other, hother, heq⟩ := List.mem_map.mp hmem
    cases heq
    have hdeclared : descriptor.declaresPin pin = true :=
      List.contains_iff_mem.mpr (List.mem_flatMap.mpr ⟨signal, hsignal, hother⟩)
    simp only [SortedMap.get?_filterKeys_of_pos hdeclared]
  | interruptOnly wanted settings => rfl
  | global enabled settings interrupts => rfl

/-- An interrupt has the same job when only pins out of reach are left out. -/
theorem interruptJob?_keepPins (state : State) (settings : Settings) (interrupt : Interrupt) :
    descriptor.interruptJob? (state.keepPins descriptor.declaresPin) settings interrupt =
      descriptor.interruptJob? state settings interrupt := by
  have henabled : isEnabled (state.keepPins descriptor.declaresPin) interrupt =
      isEnabled state interrupt := by
    rw [isEnabled, isEnabled, State.interruptEnabled?_keepPins]
  unfold interruptJob?
  simp only [henabled, carrier?_keepPins]

/-- There are the same jobs when only pins out of reach are left out. -/
theorem jobs_keepPins (state : State) :
    descriptor.jobs (state.keepPins descriptor.declaresPin) = descriptor.jobs state := by
  have hsettings : descriptor.peripheralSettings (state.keepPins descriptor.declaresPin) =
      descriptor.peripheralSettings state := by
    rw [peripheralSettings, peripheralSettings, State.settings_keepPins]
  have hinterrupts (settings : Settings) :
      descriptor.interruptJob? (state.keepPins descriptor.declaresPin) settings =
        descriptor.interruptJob? state settings :=
    funext (interruptJob?_keepPins state settings)
  simp only [jobs, hsettings, sharedSets_keepPins, pinsInUse_keepPins, hinterrupts]

/-! ## Code -/

/-- A state is as active without the pins out of reach as it was. -/
theorem isActive_trimmed (state : State) :
    (descriptor.trimmed state).isActive = state.isActive := by
  unfold trimmed
  split
  · next h =>
    obtain ⟨pin, hpin, hdeclared⟩ := List.any_eq_true.mp h
    have hkept := State.mem_occupiedPins_keepPins hpin hdeclared
    rw [State.isActive_of_occupiedPins hpin, State.isActive_of_occupiedPins hkept]
  · rfl

/-- The pins out of reach do not change the code of the peripheral. -/
theorem expand_trimmed (state : State) (clock : Option Nat) :
    descriptor.expand (descriptor.trimmed state) clock = descriptor.expand state clock := by
  unfold trimmed
  split
  · next h =>
    obtain ⟨pin, hpin, hdeclared⟩ := List.any_eq_true.mp h
    have hkept := State.mem_occupiedPins_keepPins hpin hdeclared
    exact expand_congr (jobs_keepPins state) (State.settings_keepPins state)
      (State.isActive_of_occupiedPins hkept) (State.isActive_of_occupiedPins hpin) clock
  · rfl

/-- The settings of the peripheral are the same without the pins out of reach. -/
theorem settings_trimmed (state : State) :
    (descriptor.trimmed state).settings = state.settings := by
  unfold trimmed
  split
  · exact State.settings_keepPins state
  · rfl

/-- The pins within reach are the same without the others. -/
theorem filter_entries_trimmed (state : State) :
    ((descriptor.trimmed state).pinSettings.entries.filter fun entry =>
      descriptor.declaresPin entry.1) =
        state.pinSettings.entries.filter fun entry => descriptor.declaresPin entry.1 := by
  unfold trimmed
  split
  · rw [State.pinSettings_keepPins, SortedMap.filterKeys, List.filter_filter]
    simp only [Bool.and_self]
  · rfl

end Descriptor

/-- The contribution with the state of its peripheral trimmed. -/
def Stage.trimmed : Stage → Stage
  | peripheral descriptor state => peripheral descriptor (descriptor.trimmed state)
  | pinChange => pinChange

namespace Device

variable {device : Device} {configuration : Configuration}

/-- The configuration without the pins that its peripherals do not reach. A peripheral that
takes no others keeps them, and so does one that the device does not have. -/
def trimmed (device : Device) (configuration : Configuration) : Configuration :=
  configuration.mapValues fun id state =>
    ((device.descriptor? id).map fun descriptor => descriptor.trimmed state).getD state

/-- The state of a described peripheral is trimmed by its description. -/
theorem get?_trimmed {id : Peripheral} {descriptor : Descriptor}
    (hdescriptor : device.descriptor? id = some descriptor) (configuration : Configuration) :
    (device.trimmed configuration).get? id = (configuration.get? id).map descriptor.trimmed := by
  rw [trimmed, SortedMap.get?_mapValues, hdescriptor]
  rfl

/-- Each peripheral assigns the same pins to the pin-change interrupts. -/
theorem configuredPins_trimmed (id : Peripheral) :
    PinChange.configuredPins device (device.trimmed configuration) id =
      PinChange.configuredPins device configuration id := by
  unfold PinChange.configuredPins
  cases hdescriptor : device.descriptor? id with
  | none => rfl
  | some descriptor =>
    rw [get?_trimmed hdescriptor]
    cases configuration.get? id with
    | none => rfl
    | some state =>
      simp only [Option.map_some, Descriptor.filter_entries_trimmed, Descriptor.settings_trimmed]

/-- The pin-change interrupts do not depend on pins out of reach. -/
theorem expansion?_trimmed :
    PinChange.expansion? device (device.trimmed configuration) =
      PinChange.expansion? device configuration := by
  have hrequests : PinChange.requests device (device.trimmed configuration) =
      PinChange.requests device configuration := by
    unfold PinChange.requests PinChange.explicitRequests PinChange.flaggedRequests
    rw [configuredPins_trimmed, configuredPins_trimmed]
  unfold PinChange.expansion?
  rw [hrequests]

/-- A described peripheral contributes at its place what its trimmed state gives. -/
theorem stage?_trimmed {descriptor : Descriptor}
    (hfound : device.descriptor? descriptor.id = some descriptor) :
    descriptor.stage? (device.trimmed configuration) =
      (descriptor.stage? configuration).map Stage.trimmed := by
  unfold Descriptor.stage?
  split
  · rfl
  · rw [get?_trimmed hfound]
    cases configuration.get? descriptor.id with
    | none => rfl
    | some state =>
      rw [Option.map_some, Option.filter_some, Option.filter_some, Descriptor.isActive_trimmed]
      split <;> rfl

/-- The contributions are the same, each with its state trimmed. -/
theorem stages_trimmed (hcoherent : device.IsCoherent) :
    device.stages (device.trimmed configuration) =
      (device.stages configuration).map Stage.trimmed := by
  have hdescribed : device.peripherals.filterMap (fun descriptor =>
        descriptor.stage? (device.trimmed configuration)) =
      (device.peripherals.filterMap fun descriptor =>
        descriptor.stage? configuration).map Stage.trimmed := by
    rw [List.map_filterMap]
    apply List.filterMap_congr
    intro descriptor hdescriptor
    exact stage?_trimmed (find?_key_eq_some hcoherent.nodup_ids hdescriptor)
  unfold stages
  rw [hdescribed, List.map_append]
  split <;> rfl

/-- A contribution has the same code when pins out of reach are left out. -/
theorem expandStage_trimmed (clock : Option Nat) (stage : Stage) :
    device.expandStage (device.trimmed configuration) clock stage.trimmed =
      device.expandStage configuration clock stage := by
  cases stage with
  | peripheral descriptor state =>
    rw [Stage.trimmed, expandStage, expandStage, Descriptor.expand_trimmed]
  | pinChange => rw [Stage.trimmed, expandStage, expandStage, expansion?_trimmed]

/-- Pins out of reach contribute nothing. For an accepted device, leave them out of the state of
every peripheral that takes some pin within reach. Then the code is the same, and so is the
failure if there is one. -/
theorem generate_trimmed {text : String} (hparse : parse text = .ok device)
    (configuration : Configuration) (clock : Option Nat) :
    device.generate (device.trimmed configuration) clock =
      device.generate configuration clock := by
  have hcoherent : device.IsCoherent := isCoherent_of_parse hparse
  have hexpansions (clock : Option Nat) :
      device.expansions (device.trimmed configuration) clock =
        device.expansions configuration clock := by
    unfold expansions
    rw [stages_trimmed hcoherent, List.mapM_map]
    congr 2
    funext stage
    exact expandStage_trimmed clock stage
  rw [generate, generate, hexpansions]

/-- The external interrupts take a pin within reach and one out of reach. -/
def strayConfiguration : Configuration :=
  SortedMap.ofList [(.extint, .pinBound
    (.ofList [(Atmega328p.pinAt .b 0, ∅), (Atmega328p.pinAt .d 2, ∅)]) ∅ (.ofList [("A", true)]))]

/-- The pin out of reach is left out, and the code stays the same. -/
theorem generate_trimmed_extint :
    (extintDevice.trimmed strayConfiguration).get? .extint = some (.pinBound
        (.ofList [(Atmega328p.pinAt .d 2, ∅)]) ∅ (.ofList [("A", true)])) ∧
      extintDevice.generate (extintDevice.trimmed strayConfiguration) none =
        extintDevice.generate strayConfiguration none :=
  ⟨by decide, generate_trimmed parse_extintText strayConfiguration none⟩

end Device

end AvrSetup
