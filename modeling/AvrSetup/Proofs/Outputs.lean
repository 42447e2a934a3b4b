import AvrSetup.Atmega328p.Device
import AvrSetup.Proofs.Description
import AvrSetup.Proofs.Overlap
import AvrSetup.Proofs.Pooling
import AvrSetup.Proofs.Resolution

/-!
# Outputs among the watched pins

The code that watches a pin for changes makes the pin an input. If the pin is configured as an
output at the same time, the order of the init routines decides which of the two it becomes.
This file shows how far a check that finds nothing excludes that
(`Device.assigned_or_flagged_of_watched_output`). Where the flag for pin changes is hidden from
outputs, an output is watched only if the pin is assigned to the pin-change interrupts as well.
The pair of peripherals is exempt from warnings, so a pin that both take is found only by a
rule.
-/

namespace AvrSetup

/-- The requirement on the settings of a pin that it is an output. -/
def outputClause : Clause := .anyOf "mode" ["OUTPUT"]

/-- The flag for pin changes does not matter for an output. -/
def Descriptor.HidesFlagFromOutputs (descriptor : Descriptor) : Prop :=
  ∀ settings : Settings, outputClause.holds settings = true →
    ∃ field ∈ descriptor.fields, field.key = "pcint" ∧ field.isVisible settings = false

namespace PinChange

variable {device : Device} {configuration : Configuration} {id : Peripheral} {pin : Pin}
  {settings : Settings}

/-- A pin stands in one of the groups that code is made for. -/
def WatchesPin (device : Device) (configuration : Configuration) (pin : Pin) : Prop :=
  ∃ group ∈ (Pool.ofRequests (requests device configuration)).groups, pin ∈ group.2.map Prod.fst

/-- The pins in the groups are those that are asked for. -/
theorem watchesPin_iff : WatchesPin device configuration pin ↔
    ∃ request ∈ requests device configuration, request.pin = pin := by
  rw [← Pool.mem_keys_ofRequests, SortedMap.keys, List.mem_map]
  constructor
  · rintro ⟨⟨port, pins⟩, hgroup, hpin⟩
    obtain ⟨rfl, -⟩ := Pool.mem_groups_iff.mp hgroup
    obtain ⟨entry, hentry, rfl⟩ := List.mem_map.mp hpin
    exact ⟨entry, (List.mem_filter.mp hentry).1, rfl⟩
  · rintro ⟨entry, hentry, rfl⟩
    have hport : entry ∈ (Pool.ofRequests (requests device configuration)).pinsOn entry.1.port :=
      List.mem_filter.mpr ⟨hentry, beq_self_eq_true _⟩
    exact ⟨(entry.1.port, _), Pool.mem_groups_iff.mpr ⟨rfl, List.ne_nil_of_mem hport⟩,
      List.mem_map_of_mem hport⟩

/-- A peripheral takes the pins that are configured for it. -/
theorem takes_of_mem_configuredPins
    (h : (pin, settings) ∈ configuredPins device configuration id) :
    configuration.Takes id pin := by
  obtain ⟨-, state, given, -, hstate, hgiven, -, -⟩ := mem_configuredPins.mp h
  exact ⟨state, hstate, SortedMap.contains_iff.mpr ⟨given, hgiven⟩⟩

end PinChange

/-- The flag is not in force for an output from which it is hidden. -/
theorem Descriptor.HidesFlagFromOutputs.get?_pinSettings {descriptor : Descriptor}
    (hhides : descriptor.HidesFlagFromOutputs) {shared given : Settings}
    (houtput : outputClause.holds (descriptor.pinSettings shared given) = true) :
    (descriptor.pinSettings shared given).get? "pcint" = none := by
  -- The mode in force is the mode that decides which fields matter.
  have hfilled : outputClause.holds
      (Settings.filled descriptor.fields .pin (shared.overlay given)) = true :=
    (Settings.isWithin_filled _ _ _).holds_anyOf houtput
  obtain ⟨field, hfield, hkey, hhidden⟩ := hhides _ hfilled
  have hmem : field ∈ Settings.fieldsIn descriptor.fields .pin :=
    List.mem_filter.mpr ⟨hfield, rfl⟩
  rw [pinSettings, Settings.get?_effective]
  exact if_pos ⟨field, hmem, hkey, hhidden⟩

namespace Device

variable {device : Device} {configuration : Configuration} {pin : Pin}

/-- Plain pins have no flag for pin changes while they are outputs. -/
def HidesFlagFromOutputs (device : Device) : Prop :=
  ∀ descriptor, device.descriptor? .gpio = some descriptor → descriptor.HidesFlagFromOutputs

/-- A pin is configured as a plain output. -/
def IsOutput (device : Device) (configuration : Configuration) (pin : Pin) : Prop :=
  ∃ settings, (pin, settings) ∈ PinChange.configuredPins device configuration .gpio ∧
    outputClause.holds settings = true

/-- A plain output has no request by the flag that is hidden from it. -/
theorem IsOutput.pin_ne (houtput : device.IsOutput configuration pin)
    (hhides : device.HidesFlagFromOutputs) :
    ∀ request ∈ PinChange.flaggedRequests device configuration, request.pin ≠ pin := by
  intro request hrequest hpin
  obtain ⟨settings, hconfigured, hmode⟩ := houtput
  obtain ⟨other, hother, hflag⟩ :=
    PinChange.exists_flaggedRequest_iff.mp ⟨request, hrequest, hpin⟩
  obtain rfl := PinChange.configuredPins_unique hconfigured hother
  obtain ⟨descriptor, state, given, hdescriptor, -, -, -, rfl⟩ :=
    PinChange.mem_configuredPins.mp hconfigured
  have hnone := (hhides descriptor hdescriptor).get?_pinSettings hmode
  rw [Settings.isTruthy, hnone] at hflag
  cases hflag

/-- No rule covers a pair of peripherals on a pin that both take if a check finds nothing. -/
theorem covers_eq_false_of_check {left right : Peripheral}
    (hcheck : device.check configuration = []) (hleft : configuration.Takes left pin)
    (hright : configuration.Takes right pin) : device.covers pin left right = false := by
  have hnone : device.conflicts configuration = [] :=
    List.map_eq_nil_iff.mp (List.append_eq_nil_iff.mp hcheck).1
  rw [← Bool.not_eq_true]
  intro hcovers
  obtain ⟨rule, hrule, hpair⟩ := List.any_eq_true.mp hcovers
  obtain ⟨conflict, hconflict, -⟩ :=
    (exists_conflict_iff hleft hright).mpr ⟨rule, hrule, ConflictRule.covers_iff.mp hpair⟩
  rw [hnone] at hconflict
  cases hconflict

/-- What it takes that an output is watched although a check finds nothing. Either the pin is
assigned to the pin-change interrupts, which reach it, no flag asks for it, and no rule covers
plain input and pin-change interrupts on it. Or its flag asks for it, and the description does
not hide that flag from outputs. -/
theorem assigned_or_flagged_of_watched_output (hcheck : device.check configuration = [])
    (hwatched : PinChange.WatchesPin device configuration pin)
    (houtput : device.IsOutput configuration pin) :
    ((∃ request ∈ PinChange.explicitRequests device configuration, request.pin = pin) ∧
      (∀ request ∈ PinChange.flaggedRequests device configuration, request.pin ≠ pin) ∧
      device.covers pin .gpio .pcint = false) ∨
    ((∃ request ∈ PinChange.flaggedRequests device configuration, request.pin = pin) ∧
      ¬device.HidesFlagFromOutputs) := by
  by_cases hflagged : ∃ request ∈ PinChange.flaggedRequests device configuration,
      request.pin = pin
  · right
    refine ⟨hflagged, ?_⟩
    intro hhides
    obtain ⟨request, hrequest, hpin⟩ := hflagged
    exact houtput.pin_ne hhides request hrequest hpin
  · left
    have hunflagged : ∀ request ∈ PinChange.flaggedRequests device configuration,
        request.pin ≠ pin := by
      intro request hrequest hpin
      exact hflagged ⟨request, hrequest, hpin⟩
    have hassigned : ∃ request ∈ PinChange.explicitRequests device configuration,
        request.pin = pin := by
      obtain ⟨request, hrequest, hpin⟩ := PinChange.watchesPin_iff.mp hwatched
      rcases List.mem_append.mp hrequest with hexplicit | hother
      · exact ⟨request, hexplicit, hpin⟩
      · exact absurd hpin (hunflagged request hother)
    obtain ⟨_, hpcint⟩ := PinChange.exists_explicitRequest_iff.mp hassigned
    obtain ⟨_, hgpio, -⟩ := houtput
    have hfree : device.covers pin .gpio .pcint = false :=
      covers_eq_false_of_check hcheck (PinChange.takes_of_mem_configuredPins hgpio)
        (PinChange.takes_of_mem_configuredPins hpcint)
    exact ⟨hassigned, hunflagged, hfree⟩

end Device

/-! ## A chip that hides the flag -/

namespace Atmega328p

/-- A setting that matters only under a requirement does so exactly if that holds. -/
theorem isVisible_shownWhen (clause : Clause) (field : Field) (settings : Settings) :
    (shownWhen clause field).isVisible settings = clause.holds settings :=
  Bool.and_true _

/-- The ATmega328P hides the flag from outputs. -/
theorem hidesFlagFromOutputs : device.HidesFlagFromOutputs := by
  intro descriptor hdescriptor settings houtput
  obtain rfl : gpio = descriptor := Option.some.inj hdescriptor
  have hflag : shownWhen (.noneOf "mode" ["OUTPUT"])
      (flag .pin "pcint" "Pin change interrupt" false) ∈ gpio.fields := by
    simp [gpio]
  refine ⟨_, hflag, rfl, ?_⟩
  rw [isVisible_shownWhen]
  exact congrArg not houtput

/-- An output that is assigned to the pin-change interrupts as well. -/
def assignedOutput : Configuration :=
  .ofList [(.gpio, .pinBound (.ofList [(pinAt .b 0, .ofList [("mode", .text "OUTPUT")])]) ∅ ∅),
    (.pcint, .pinBound (.ofList [(pinAt .b 0, ∅)]) ∅ ∅)]

/-- On the ATmega328P, the output `PB0` is watched without a remark, as it is assigned as well. -/
theorem assigned_or_flagged_of_watched_output_pb0 :
    device.check assignedOutput = [] ∧
      PinChange.WatchesPin device assignedOutput (pinAt .b 0) ∧
      device.IsOutput assignedOutput (pinAt .b 0) ∧
      ∃ request ∈ PinChange.explicitRequests device assignedOutput,
        request.pin = pinAt .b 0 := by
  have hcheck : device.check assignedOutput = [] := by decide +kernel
  have hwatched : PinChange.WatchesPin device assignedOutput (pinAt .b 0) :=
    PinChange.watchesPin_iff.mpr ⟨⟨pinAt .b 0, false, .explicit⟩, by decide +kernel, rfl⟩
  have houtput : device.IsOutput assignedOutput (pinAt .b 0) :=
    ⟨.ofList [("mode", .text "OUTPUT"), ("level", .text "LOW")], by decide +kernel, rfl⟩
  rcases Device.assigned_or_flagged_of_watched_output hcheck hwatched houtput with
    ⟨hassigned, -, -⟩ | ⟨-, hkept⟩
  · exact ⟨hcheck, hwatched, houtput, hassigned⟩
  · exact absurd hidesFlagFromOutputs hkept

end Atmega328p

/-! ## A chip that does not -/

namespace Device

/-- A description of a device whose plain pins keep the flag while they are outputs. -/
def outputText : String :=
  "<device name='m'><peripheral id='gpio' kind='pin-bound'><signal name='S' pins='PB0 PB1'/>" ++
  "<field key='mode' kind='choice' values='INPUT|OUTPUT' scope='pin' default='INPUT'/>" ++
  "<field key='pcint' kind='flag' scope='pin' default='false'/></peripheral>" ++
  "<peripheral id='pcint' kind='pin-bound'><signal name='S' pins='PB0'/></peripheral></device>"

/-- The device of plain pins and pin-change interrupts. -/
def outputDevice : Device where
  name := "m"
  clock := none
  peripherals :=
    [{ id := .gpio, name := "gpio", footprint := .pinBound, needsAllPins := false
       signals := [⟨"S", Atmega328p.portB [0, 1]⟩]
       fields := [Atmega328p.choice .pin "mode" "mode" ["INPUT", "OUTPUT"] "INPUT",
         Atmega328p.flag .pin "pcint" "pcint" false]
       mode := none, tables := ∅, signature := .plain "gpio_init", interrupts := []
       templates := [] },
     { id := .pcint, name := "pcint", footprint := .pinBound, needsAllPins := false
       signals := [⟨"S", Atmega328p.portB [0]⟩], fields := []
       mode := none, tables := ∅, signature := .plain "pcint_init", interrupts := []
       templates := [] }]
  rules := []

/-- Two outputs, of which the first is assigned to the pin-change interrupts and the second has
the flag for them. -/
def watchedOutputs : Configuration :=
  .ofList [(.gpio, .pinBound (.ofList
      [(Atmega328p.pinAt .b 0, .ofList [("mode", .text "OUTPUT")]),
        (Atmega328p.pinAt .b 1, .ofList [("mode", .text "OUTPUT"), ("pcint", .bool true)])]) ∅ ∅),
    (.pcint, .pinBound (.ofList [(Atmega328p.pinAt .b 0, ∅)]) ∅ ∅)]

/-- A check may find nothing although outputs are watched, by assignment or by their flag. -/
theorem watched_outputs_unreported :
    parse outputText = .ok outputDevice ∧ outputDevice.check watchedOutputs = [] ∧
      ∀ bit ∈ [0, 1],
        PinChange.WatchesPin outputDevice watchedOutputs (Atmega328p.pinAt .b bit) ∧
          outputDevice.IsOutput watchedOutputs (Atmega328p.pinAt .b bit) := by
  refine ⟨by decide +kernel, by decide +kernel, ?_⟩
  simp only [List.forall_mem_cons, List.not_mem_nil, false_implies, implies_true, and_true,
    PinChange.watchesPin_iff]
  constructor
  · exact ⟨⟨⟨Atmega328p.pinAt .b 0, false, .explicit⟩, by decide +kernel, rfl⟩,
      .ofList [("mode", .text "OUTPUT"), ("pcint", .bool false)], by decide +kernel, rfl⟩
  · exact ⟨⟨⟨Atmega328p.pinAt .b 1, false, .flagged⟩, by decide +kernel, rfl⟩,
      .ofList [("mode", .text "OUTPUT"), ("pcint", .bool true)], by decide +kernel, rfl⟩

end Device

end AvrSetup
