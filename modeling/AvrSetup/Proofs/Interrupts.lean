import AvrSetup.Proofs.Assembly
import AvrSetup.Proofs.Jobs
import AvrSetup.Proofs.Pooling

/-!
# No interrupt without its handler

An interrupt that is enabled without a handler resets the chip. This file shows that the
handlers of generated code are those of the emitted interrupts and of the ports with
requested pins, one for each vector, and that the lines which enable an emitted interrupt
stand unbroken in a routine that is called.
-/

namespace AvrSetup

/-! ## Handlers of a peripheral -/

namespace Descriptor

variable {descriptor : Descriptor} {state : State} {clock : Option Nat}

/-- The emission of an interrupt. -/
def interruptEmission (descriptor : Descriptor) (state : State) (clock : Option Nat)
    (interrupt : Interrupt) : Emission :=
  descriptor.emission clock (descriptor.argumentsOf state)
    (.interrupt interrupt (descriptor.interruptParameters state interrupt))

/-- An emission of a peripheral has no handler, or is that of an emitted interrupt. -/
theorem mem_emissions_iff (hcoherent : descriptor.IsCoherent) {emission : Emission}
    (hhandler : emission.handler ≠ none) :
    emission ∈ descriptor.emissions state clock ↔
      ∃ interrupt ∈ descriptor.interrupts, descriptor.emits state interrupt = true ∧
        emission = descriptor.interruptEmission state clock interrupt := by
  have hgroup (set : TemplateSet) (parameters : Parameters) :
      descriptor.emission clock (descriptor.argumentsOf state) (.group set parameters) ≠
        emission := by
    rintro rfl
    exact hhandler rfl
  rw [emissions, jobs_eq hcoherent]
  simp only [List.mem_map, List.mem_append, List.mem_flatMap, List.mem_filter]
  constructor
  · rintro ⟨job, (⟨set, -, rfl⟩ | ⟨pin, -, hjob⟩) | ⟨interrupt, ⟨hmem, hemits⟩, rfl⟩, heq⟩
    · exact absurd heq (hgroup _ _)
    · obtain ⟨set, -, rfl⟩ := List.mem_map.mp hjob
      exact absurd heq (hgroup _ _)
    · exact ⟨interrupt, hmem, hemits, heq.symm⟩
  · rintro ⟨interrupt, hmem, hemits, rfl⟩
    exact ⟨_, Or.inr ⟨interrupt, ⟨hmem, hemits⟩, rfl⟩, rfl⟩

/-- The vectors with handlers of a peripheral are those of its emitted interrupts. -/
theorem exists_handler_iff (hcoherent : descriptor.IsCoherent) {vector : String} :
    (∃ emission ∈ descriptor.emissions state clock, ∃ handler, emission.handler = some handler ∧
      handler.vector = vector) ↔
    ∃ interrupt ∈ descriptor.interrupts, descriptor.emits state interrupt = true ∧
      interrupt.vector = vector := by
  constructor
  · rintro ⟨emission, hemission, handler, hhandler, rfl⟩
    have hsome : emission.handler ≠ none := by simp [hhandler]
    obtain ⟨interrupt, hmem, hemits, rfl⟩ := (mem_emissions_iff hcoherent hsome).mp hemission
    cases hhandler
    exact ⟨interrupt, hmem, hemits, rfl⟩
  · rintro ⟨interrupt, hmem, hemits, rfl⟩
    have hmember : descriptor.interruptEmission state clock interrupt ∈
        descriptor.emissions state clock :=
      (mem_emissions_iff hcoherent (Option.some_ne_none _)).mpr ⟨interrupt, hmem, hemits, rfl⟩
    exact ⟨_, hmember, _, rfl, rfl⟩

end Descriptor

namespace PinChange

/-- Some pin of a port is asked for. -/
def Watches (device : Device) (configuration : Configuration) (port : Port) : Prop :=
  ∃ request ∈ requests device configuration, request.pin.port = port

/-- The vectors with handlers for pin changes are those of the ports with requested pins. -/
theorem exists_handler_iff {device : Device} {configuration : Configuration} {vector : String} :
    (∃ emission ∈ emissions device configuration, ∃ handler, emission.handler = some handler ∧
      handler.vector = vector) ↔
    ∃ port, Watches device configuration port ∧ port.vector = vector := by
  have hwatches (port : Port) : Watches device configuration port ↔
      ∃ pins, (port, pins) ∈ (Pool.ofRequests (requests device configuration)).groups := by
    simp only [Pool.exists_mem_groups_iff, Pool.mem_keys_ofRequests, Watches]
    constructor
    · rintro ⟨request, hrequest, rfl⟩
      exact ⟨request.pin, ⟨request, hrequest, rfl⟩, rfl⟩
    · rintro ⟨_, ⟨request, hrequest, rfl⟩, rfl⟩
      exact ⟨request, hrequest, rfl⟩
  simp only [hwatches]
  constructor
  · rintro ⟨emission, hemission, handler, hhandler, rfl⟩
    obtain ⟨⟨port, pins⟩, hgroup, rfl⟩ := List.mem_map.mp hemission
    cases hhandler
    exact ⟨port, ⟨pins, hgroup⟩, rfl⟩
  · rintro ⟨port, ⟨pins, hgroup⟩, rfl⟩
    exact ⟨_, List.mem_map_of_mem hgroup, _, rfl, rfl⟩

end PinChange

/-! ## Handlers of a device -/

namespace Device

/-- An interrupt of an active peripheral is emitted. The pin-change interrupts have no
interrupts of their own. -/
structure EmitsInterrupt (device : Device) (configuration : Configuration)
    (descriptor : Descriptor) (state : State) (interrupt : Interrupt) : Prop where
  /-- The peripheral is described. -/
  mem_peripherals : descriptor ∈ device.peripherals
  /-- It is not that for pin changes. -/
  ne_pcint : descriptor.id ≠ .pcint
  /-- It has a state. -/
  get?_eq : configuration.get? descriptor.id = some state
  /-- It is active. -/
  isActive : state.isActive = true
  /-- The interrupt is one of its own. -/
  mem_interrupts : interrupt ∈ descriptor.interrupts
  /-- It is emitted under the state. -/
  emits : descriptor.emits state interrupt = true

variable {device : Device} {configuration : Configuration} {clock : Option Nat}

/-- A peripheral with an emitted interrupt makes a contribution. -/
theorem EmitsInterrupt.mem_stages {descriptor : Descriptor} {state : State}
    {interrupt : Interrupt}
    (h : device.EmitsInterrupt configuration descriptor state interrupt) :
    .peripheral descriptor state ∈ device.stages configuration :=
  mem_stages_iff.mpr (Or.inr
    ⟨descriptor, h.mem_peripherals, state, h.ne_pcint, h.get?_eq, h.isActive, rfl⟩)

/-- The vectors of emitted handlers are those of the emitted interrupts and of the ports with
requested pins. -/
theorem mem_map_vector_handlersOf (hcoherent : device.IsCoherent) {vector : String} :
    vector ∈ (handlersOf (device.emissions configuration clock)).map Handler.vector ↔
      (∃ descriptor state interrupt,
        device.EmitsInterrupt configuration descriptor state interrupt ∧
        interrupt.vector = vector) ∨
      ∃ port, PinChange.Watches device configuration port ∧ port.vector = vector := by
  have hstages : vector ∈ (handlersOf (device.emissions configuration clock)).map Handler.vector ↔
      ∃ stage ∈ device.stages configuration,
        ∃ emission ∈ device.stageEmissions configuration clock stage, ∃ handler,
          emission.handler = some handler ∧ handler.vector = vector := by
    simp only [handlersOf, emissions, List.mem_map, List.mem_flatMap, Option.mem_toList]
    constructor
    · rintro ⟨handler, ⟨emission, ⟨stage, hstage, hemission⟩, hhandler⟩, rfl⟩
      exact ⟨stage, hstage, emission, hemission, handler, hhandler, rfl⟩
    · rintro ⟨stage, hstage, emission, hemission, handler, hhandler, rfl⟩
      exact ⟨handler, ⟨emission, ⟨stage, hstage, hemission⟩, hhandler⟩, rfl⟩
  rw [hstages, ← PinChange.exists_handler_iff]
  constructor
  · rintro ⟨stage, hstage, hhandler⟩
    rcases mem_stages_iff.mp hstage with rfl | ⟨descriptor, hmem, state, hid, hget, hactive, rfl⟩
    · exact Or.inr hhandler
    · obtain ⟨interrupt, hinterrupt, hemits, hvector⟩ :=
        (Descriptor.exists_handler_iff (hcoherent.isCoherent descriptor hmem)).mp hhandler
      exact Or.inl ⟨descriptor, state, interrupt,
        ⟨hmem, hid, hget, hactive, hinterrupt, hemits⟩, hvector⟩
  · rintro (⟨descriptor, state, interrupt, h, hvector⟩ | hhandler)
    · have hown := hcoherent.isCoherent descriptor h.mem_peripherals
      exact ⟨.peripheral descriptor state, h.mem_stages,
        (Descriptor.exists_handler_iff hown).mpr ⟨interrupt, h.mem_interrupts, h.emits, hvector⟩⟩
    · exact ⟨.pinChange, mem_stages_iff.mpr (Or.inl rfl), hhandler⟩

/-- The lines that enable an emitted interrupt stand unbroken among the lines for the routine
of its peripheral. -/
theorem EmitsInterrupt.enable_infix {descriptor : Descriptor} {state : State}
    {interrupt : Interrupt} (hcoherent : device.IsCoherent)
    (h : device.EmitsInterrupt configuration descriptor state interrupt) (clock : Option Nat) :
    filledLines clock (descriptor.interruptParameters state interrupt) interrupt.enable <:+:
      (device.emissions configuration clock).flatMap
        (Emission.linesTo descriptor.signature.name) := by
  have hown := hcoherent.isCoherent descriptor h.mem_peripherals
  have hpart : descriptor.interruptEmission state clock interrupt ∈
      descriptor.emissions state clock :=
    (Descriptor.mem_emissions_iff hown (Option.some_ne_none _)).mpr
      ⟨interrupt, h.mem_interrupts, h.emits, rfl⟩
  have hmember : descriptor.interruptEmission state clock interrupt ∈
      device.emissions configuration clock :=
    List.mem_flatMap.mpr ⟨.peripheral descriptor state, h.mem_stages, hpart⟩
  have hlines : (descriptor.interruptEmission state clock interrupt).linesTo
      descriptor.signature.name =
        filledLines clock (descriptor.interruptParameters state interrupt) interrupt.enable :=
    if_pos rfl
  rw [← hlines, List.flatMap_def]
  exact List.infix_of_mem_flatten (List.mem_map_of_mem hmember)

/-- The lines that enable an emitted interrupt have all been filled in. -/
theorem EmitsInterrupt.renderLines_enable {descriptor : Descriptor} {state : State}
    {interrupt : Interrupt} (hcoherent : device.IsCoherent)
    (h : device.EmitsInterrupt configuration descriptor state interrupt)
    (hsupplied : descriptor.IsSupplied state clock) :
    descriptor.renderLines clock ("interrupt:" ++ interrupt.name) interrupt.enable
        (descriptor.interruptParameters state interrupt) =
      .ok (filledLines clock (descriptor.interruptParameters state interrupt)
        interrupt.enable) := by
  have hown := hcoherent.isCoherent descriptor h.mem_peripherals
  have hjob : .interrupt interrupt (descriptor.interruptParameters state interrupt) ∈
      descriptor.jobs state := by
    rw [Descriptor.jobs_eq hown]
    exact List.mem_append_right _
      (List.mem_map_of_mem (List.mem_filter.mpr ⟨h.mem_interrupts, h.emits⟩))
  have hfilled := hsupplied.2 _ hjob
  exact Descriptor.renderLines_eq_ok_iff.mpr
    ⟨fun line hline => hfilled line (List.mem_append_left _ hline), rfl⟩

/-- No interrupt is enabled without its handler, and no handler is there without what enables
it. For an accepted device, the vectors with handlers are those of the emitted interrupts and
of the ports with requested pins, each once. The lines that enable an emitted interrupt stand
unbroken in the routine of its peripheral. All routines are called, and interrupts are let
through in the end if there are handlers. -/
theorem interrupts_handled {text : String} {artifact : Artifact} (hparse : parse text = .ok device)
    (hgenerate : device.generate configuration clock = .ok artifact) :
    (∀ vector, vector ∈ artifact.handlers.map Handler.vector ↔
      (∃ descriptor state interrupt,
        device.EmitsInterrupt configuration descriptor state interrupt ∧
        interrupt.vector = vector) ∨
      ∃ port, PinChange.Watches device configuration port ∧ port.vector = vector) ∧
    (artifact.handlers.map Handler.vector).Nodup ∧
    (∀ descriptor state interrupt,
      device.EmitsInterrupt configuration descriptor state interrupt → interrupt.enable ≠ [] →
      ∃ routine ∈ artifact.initRoutines, routine.name = descriptor.signature.name ∧
        routine.call ∈ artifact.aggregate.lines ∧
        ∃ lines, descriptor.renderLines (clock <|> device.clock)
          ("interrupt:" ++ interrupt.name) interrupt.enable
          (descriptor.interruptParameters state interrupt) = .ok lines ∧
          lines <:+: routine.lines) ∧
    artifact.aggregate.lines = artifact.initRoutines.map Routine.call ++
      if artifact.handlers = [] then [] else ["sei();"] := by
  have hcoherent := isCoherent_of_parse hparse
  obtain ⟨hsupplied, -, -, rfl⟩ := generate_eq_ok_iff.mp hgenerate
  have hhandlers := device.handlers_assembly configuration (clock <|> device.clock)
  refine ⟨fun vector => ?_, ?_, fun descriptor state interrupt h henable => ?_, ?_⟩
  · simp only [Assembly.artifact, hhandlers]
    rw [Handler.mem_map_vector_gather, mem_map_vector_handlersOf hcoherent]
  · simp only [Assembly.artifact, hhandlers]
    exact Handler.nodup_map_vector_gather _
  · have hinfix := h.enable_infix hcoherent (clock <|> device.clock)
    rw [← linesUnder_assembly] at hinfix
    have hne : Routine.linesUnder descriptor.signature.name
        (device.assembly configuration (clock <|> device.clock)).routines ≠ [] := by
      intro hnil
      rw [hnil, List.infix_nil] at hinfix
      exact henable (List.map_eq_nil_iff.mp hinfix)
    obtain ⟨routine, hroutine, hname, hlines⟩ :=
      Routine.exists_of_linesUnder_ne_nil (nodup_name_assembly _ _ _) hne
    rw [← hlines] at hinfix
    refine ⟨routine, hroutine, hname, ?_, _, ?_, hinfix⟩
    · exact List.mem_append_left _ (List.mem_map_of_mem hroutine)
    · exact h.renderLines_enable hcoherent (hsupplied _ h.mem_stages)
  · simp [Assembly.artifact, Assembly.aggregate]

/-- The external interrupt has its handler, and so has the port of the watched pin, each once. The
routine that enables the interrupt is called before interrupts are let through. -/
theorem interrupts_handled_edges :
    ∃ artifact, edgeDevice.generate edgeConfiguration none = .ok artifact ∧
      "V" ∈ artifact.handlers.map Handler.vector ∧
      "PCINT0_vect" ∈ artifact.handlers.map Handler.vector ∧
      (artifact.handlers.map Handler.vector).Nodup ∧
      (∃ routine ∈ artifact.initRoutines, routine.name = "extint_init" ∧
        routine.call ∈ artifact.aggregate.lines ∧ ["E;"] <:+: routine.lines) ∧
      artifact.aggregate.lines = artifact.initRoutines.map Routine.call ++ ["sei();"] := by
  have hemits : edgeDevice.EmitsInterrupt edgeConfiguration edgeDescriptor edgeState
      edgeInterrupt :=
    ⟨List.mem_cons_self, by decide, rfl, rfl, List.mem_singleton.mpr rfl, rfl⟩
  have hwatches : PinChange.Watches edgeDevice edgeConfiguration .b :=
    ⟨_, List.mem_cons_self, rfl⟩
  obtain ⟨artifact, hgenerate⟩ :
      ∃ artifact, edgeDevice.generate edgeConfiguration none = .ok artifact := ⟨_, by rfl⟩
  obtain ⟨hvectors, hnodup, henabled, hcalls⟩ := interrupts_handled parse_edgeText hgenerate
  have hvector : "V" ∈ artifact.handlers.map Handler.vector :=
    (hvectors "V").mpr (.inl ⟨_, _, _, hemits, rfl⟩)
  have hhandlers : artifact.handlers ≠ [] := by
    intro hnone
    rw [hnone] at hvector
    cases hvector
  rw [if_neg hhandlers] at hcalls
  obtain ⟨routine, hroutine, hname, hcall, lines, hlines, hinfix⟩ :=
    henabled _ _ _ hemits (List.cons_ne_nil _ _)
  cases hlines
  exact ⟨artifact, hgenerate, hvector, (hvectors "PCINT0_vect").mpr (.inr ⟨.b, hwatches, rfl⟩),
    hnodup, ⟨routine, hroutine, hname, hcall, hinfix⟩, hcalls⟩

end Device

end AvrSetup
