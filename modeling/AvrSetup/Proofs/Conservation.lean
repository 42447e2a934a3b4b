import AvrSetup.Proofs.Assembly
import AvrSetup.Proofs.Jobs

/-!
# No line is lost, doubled or moved

Lines reach a routine by way of emissions, expansions and an assembly, each of which puts
together what is for the same routine. This file writes down which lines a routine should
have, as one concatenation over the device and its configuration (`Device.linesTo`), and
proves that these are the lines that it has.
-/

namespace AvrSetup

namespace Descriptor

/-! ## The lines of a peripheral -/

/-- The lines of groups of templates for the routine of a name. A group is for the routine
that it asks for, or else for that of its peripheral. -/
def setLines (descriptor : Descriptor) (clock : Option Nat) (name : String)
    (parameters : Parameters) (sets : List TemplateSet) : List String :=
  (sets.filter fun set => set.routine.getD descriptor.signature.name == name).flatMap fun set =>
    filledLines clock parameters set.lines

/-- The lines of a pin for the routine of a name. -/
def pinLines (descriptor : Descriptor) (state : State) (clock : Option Nat) (name : String)
    (pin : Pin) : List String :=
  let signal := descriptor.signalAt pin
  let settings := descriptor.pinSettings (descriptor.peripheralSettings state)
    (state.settingsAt pin)
  descriptor.setLines clock name ((descriptor.parametersOf settings).atPin pin signal)
    (descriptor.chosen .pin (descriptor.pinKeys signal settings) settings)

/-- The lines that enable the emitted interrupts. -/
def enableLines (descriptor : Descriptor) (state : State) (clock : Option Nat) : List String :=
  (descriptor.interrupts.filter (descriptor.emits state)).flatMap fun interrupt =>
    filledLines clock (descriptor.interruptParameters state interrupt) interrupt.enable

/-- The lines of a peripheral for the routine of a name: those for the peripheral as a whole,
for each pin, and for its interrupts. -/
def linesTo (descriptor : Descriptor) (state : State) (clock : Option Nat) (name : String) :
    List String :=
  let settings := descriptor.peripheralSettings state
  descriptor.setLines clock name (descriptor.parametersOf settings)
      (descriptor.chosen .peripheral (descriptor.sharedKeys state settings) settings) ++
    (descriptor.visitedPins state).flatMap (descriptor.pinLines state clock name) ++
    if descriptor.signature.name = name then descriptor.enableLines state clock else []

variable {descriptor : Descriptor} {clock : Option Nat} {name : String}

@[simp] theorem name_fragmentFor (arguments : List String) (routine : Option String)
    (lines : List String) :
    (descriptor.fragmentFor arguments routine lines).signature.name =
      routine.getD descriptor.signature.name := by
  cases routine <;> rfl

@[simp] theorem lines_fragmentFor (arguments : List String) (routine : Option String)
    (lines : List String) : (descriptor.fragmentFor arguments routine lines).lines = lines := by
  cases routine <;> rfl

/-- The lines for a routine that a list of jobs emits. -/
def jobLines (descriptor : Descriptor) (clock : Option Nat) (arguments : List String)
    (name : String) (jobs : List Job) : List String :=
  jobs.flatMap fun job => (descriptor.emission clock arguments job).linesTo name

theorem jobLines_append (arguments : List String) (first second : List Job) :
    descriptor.jobLines clock arguments name (first ++ second) =
      descriptor.jobLines clock arguments name first ++
        descriptor.jobLines clock arguments name second :=
  List.flatMap_append

/-- Groups of templates emit their lines for the routines that they are for. -/
theorem jobLines_groups (arguments : List String) (parameters : Parameters)
    (sets : List TemplateSet) :
    descriptor.jobLines clock arguments name (sets.map fun set => .group set parameters) =
      descriptor.setLines clock name parameters sets := by
  induction sets with
  | nil => rfl
  | cons set rest ih =>
    unfold jobLines setLines at ih ⊢
    rw [List.map_cons, List.flatMap_cons, ih, List.filter_cons]
    by_cases h : set.routine.getD descriptor.signature.name = name <;>
      simp [emission, Emission.linesTo, h]

/-- Interrupts emit the lines that enable them for the routine of their peripheral. -/
theorem jobLines_interrupts (arguments : List String) (parameters : Interrupt → Parameters)
    (interrupts : List Interrupt) :
    descriptor.jobLines clock arguments name
        (interrupts.map fun interrupt => .interrupt interrupt (parameters interrupt)) =
      if descriptor.signature.name = name then
        interrupts.flatMap fun interrupt =>
          filledLines clock (parameters interrupt) interrupt.enable
      else [] := by
  unfold jobLines
  rw [List.flatMap_map]
  by_cases h : descriptor.signature.name = name <;>
    simp [emission, Emission.linesTo, h]

/-- What a peripheral emits for a routine are its lines for it. -/
theorem linesTo_emissions (hcoherent : descriptor.IsCoherent) (state : State) :
    (descriptor.emissions state clock).flatMap (Emission.linesTo name) =
      descriptor.linesTo state clock name := by
  have hpin (arguments : List String) (pin : Pin) :
      descriptor.jobLines clock arguments name (descriptor.visitJobs state pin) =
        descriptor.pinLines state clock name pin := by
    unfold visitJobs pinJobs pinLines
    rw [jobLines_groups, pinSets_eq_chosen]
  have hpins (arguments : List String) (pins : List Pin) :
      descriptor.jobLines clock arguments name (pins.flatMap (descriptor.visitJobs state)) =
        pins.flatMap (descriptor.pinLines state clock name) := by
    unfold jobLines at hpin ⊢
    rw [List.flatMap_assoc]
    simp only [hpin]
  have hjobs : (descriptor.emissions state clock).flatMap (Emission.linesTo name) =
      descriptor.jobLines clock (descriptor.argumentsOf state) name (descriptor.jobs state) := by
    rw [emissions, List.flatMap_map, jobLines]
  rw [hjobs, jobs_eq hcoherent, jobLines_append, jobLines_append, jobLines_groups, hpins,
    jobLines_interrupts, sharedSets_eq_chosen]
  rfl

end Descriptor

/-! ## The lines of a device -/

/-- The lines of the pin-change interrupts for the routine of a name. -/
def PinChange.linesTo (device : Device) (configuration : Configuration) (name : String) :
    List String :=
  if (routine device).name = name then
    (Pool.ofRequests (requests device configuration)).groups.flatMap fun (port, pins) =>
      enableLines port pins
  else []

namespace Device

/-- The lines that a descriptor contributes at its place to the routine of a name. -/
def descriptorLines (device : Device) (configuration : Configuration) (clock : Option Nat)
    (name : String) (descriptor : Descriptor) : List String :=
  if descriptor.id = .pcint then PinChange.linesTo device configuration name
  else match configuration.get? descriptor.id with
    | some state => if state.isActive then descriptor.linesTo state clock name else []
    | none => []

/-- The lines for the routine of a name, over the peripherals of a device in order, with the
pin-change interrupts last if the device does not describe them. -/
def linesTo (device : Device) (configuration : Configuration) (clock : Option Nat)
    (name : String) : List String :=
  device.peripherals.flatMap (device.descriptorLines configuration clock name) ++
    if (device.descriptor? .pcint).isSome then []
    else PinChange.linesTo device configuration name

/-- The pin-change interrupts emit their lines for their routine. -/
theorem linesTo_pinChange (device : Device) (configuration : Configuration) (name : String) :
    (PinChange.emissions device configuration).flatMap (Emission.linesTo name) =
      PinChange.linesTo device configuration name := by
  unfold PinChange.emissions PinChange.linesTo
  rw [List.flatMap_map]
  by_cases h : (PinChange.routine device).name = name <;>
    simp [PinChange.emission, Emission.linesTo, h]

/-- What is emitted for a routine are the lines for it. -/
theorem linesTo_emissions {device : Device} (hcoherent : device.IsCoherent)
    (configuration : Configuration) (clock : Option Nat) (name : String) :
    (device.emissions configuration clock).flatMap (Emission.linesTo name) =
      device.linesTo configuration clock name := by
  have hstage : ∀ descriptor ∈ device.peripherals,
      ((descriptor.stage? configuration).toList.flatMap
        (device.stageEmissions configuration clock)).flatMap (Emission.linesTo name) =
        device.descriptorLines configuration clock name descriptor := by
    intro descriptor hdescriptor
    unfold Descriptor.stage? Peripheral.feedsPinChange descriptorLines
    by_cases hid : descriptor.id = .pcint
    · simp [hid, stageEmissions, linesTo_pinChange]
    · simp only [beq_iff_eq, hid, if_false]
      cases configuration.get? descriptor.id with
      | none => rfl
      | some state =>
        by_cases hactive : state.isActive = true
        · simp [Option.filter_some, hactive, stageEmissions,
            Descriptor.linesTo_emissions (hcoherent.isCoherent descriptor hdescriptor)]
        · simp [Option.filter_some, hactive]
  have hlast : (device.peripherals.any fun descriptor => descriptor.id.feedsPinChange) =
      (device.descriptor? .pcint).isSome := by
    rw [Bool.eq_iff_iff, descriptor?, List.find?_isSome, List.any_eq_true]
    rfl
  rw [emissions, stages, hlast, List.flatMap_append, List.flatMap_append,
    List.filterMap_eq_flatMap_toList, List.flatMap_assoc, List.flatMap_assoc, linesTo]
  congr 1
  · refine List.flatMap_congr fun descriptor hdescriptor => ?_
    rw [← hstage descriptor hdescriptor, List.flatMap_assoc]
  · split
    · rfl
    · rw [List.flatMap_singleton]
      exact linesTo_pinChange device configuration name

/-- Generation loses, doubles and moves no line. For an accepted device, the routine of a name
has exactly the lines for it, and there is one if and only if there are any. All placeholders
of these lines are filled. No peripheral is met twice on the way, and no pin of a peripheral is
visited twice. -/
theorem lines_conserved {text : String} {device : Device} {configuration : Configuration}
    {clock : Option Nat} {artifact : Artifact} (hparse : parse text = .ok device)
    (hgenerate : device.generate configuration clock = .ok artifact) :
    (∀ name, (artifact.initRoutines.filter fun routine => routine.name == name).map Routine.lines =
      if device.linesTo configuration (clock <|> device.clock) name = [] then []
      else [device.linesTo configuration (clock <|> device.clock) name]) ∧
    (∀ stage ∈ device.stages configuration, stage.IsSupplied (clock <|> device.clock)) ∧
    (device.peripherals.map Descriptor.id).Nodup ∧
    ∀ descriptor ∈ device.peripherals, ∀ state, (descriptor.visitedPins state).Nodup := by
  have hcoherent := isCoherent_of_parse hparse
  obtain ⟨hsupplied, -, -, rfl⟩ := generate_eq_ok_iff.mp hgenerate
  refine ⟨fun name => ?_, hsupplied, hcoherent.nodup_ids, fun descriptor hdescriptor state => ?_⟩
  · rw [← linesTo_emissions hcoherent, ← linesUnder_assembly]
    exact Routine.map_lines_filter_name (nodup_name_assembly _ _ _)
      (fun _ => lines_ne_nil_of_mem_assembly _ _ _) name
  · exact Descriptor.nodup_visitedPins
      (hcoherent.isCoherent descriptor hdescriptor).nodup_declaredPins state

/-- Both pins are set up by the routine of another name, in order. The interrupt is enabled by the
routine of its peripheral, and the watched pin by that of the pin-change interrupts. A routine
without lines is left out. -/
theorem lines_conserved_edges :
    ∃ artifact, edgeDevice.generate edgeConfiguration none = .ok artifact ∧
      (artifact.initRoutines.filter fun routine => routine.name == "r").map Routine.lines =
        [["PB0;", "PB1;"]] ∧
      (artifact.initRoutines.filter fun routine => routine.name == "extint_init").map
        Routine.lines = [["E;"]] ∧
      (artifact.initRoutines.filter fun routine => routine.name == "pcint_init").map
        Routine.lines =
          [["DDRB &= ~_BV(DDB2);", "PCICR |= _BV(PCIE0);", "PCMSK0 |= _BV(PCINT2);"]] ∧
      (artifact.initRoutines.filter fun routine => routine.name == "gpio_init").map
        Routine.lines = [] := by
  obtain ⟨artifact, hgenerate⟩ :
      ∃ artifact, edgeDevice.generate edgeConfiguration none = .ok artifact := ⟨_, by rfl⟩
  obtain ⟨hlines, -⟩ := lines_conserved parse_edgeText hgenerate
  refine ⟨artifact, hgenerate, ?_, ?_, ?_, ?_⟩
  · rw [hlines]
    decide +kernel
  · rw [hlines]
    decide +kernel
  · rw [hlines]
    decide +kernel
  · rw [hlines]
    decide +kernel

end Device

end AvrSetup
