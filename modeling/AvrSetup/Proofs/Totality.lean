import AvrSetup.Atmega328p.Device
import AvrSetup.Proofs.Interrupts
import AvrSetup.Proofs.Supply

/-!
# Clean configurations always give code

Code can fail to be generated for three reasons: something that a template asks for has no
value, contributions to a routine are not declared and called alike, or handlers for a vector
differ. None of these happens where a device is self-contained and a configuration is free of
errors (`Device.exists_artifact_of_isClean`). That a device is self-contained can be
computed, and the ATmega328P is.
-/

namespace AvrSetup

/-! ## Self-contained devices -/

namespace Device

/-- The names of the routines that belong to peripherals, that for pin changes first. -/
def ownRoutines (device : Device) : List String :=
  (PinChange.routine device).name ::
    (device.peripherals.filter fun descriptor => descriptor.id != .pcint).map fun descriptor =>
      descriptor.signature.name

/-- All interrupts, with the peripherals that they belong to. -/
def sources (device : Device) : List (Descriptor × Interrupt) :=
  device.peripherals.flatMap fun descriptor => descriptor.interrupts.map (descriptor, ·)

/-- The vectors of all interrupts, and those for pin changes. -/
def vectors (device : Device) : List String :=
  device.sources.map (fun source => source.2.vector) ++ Port.all.map Port.vector

/-- All peripherals are self-contained, and contributions to one routine or for one vector
never come from different places. -/
structure IsSelfContained (device : Device) : Prop where
  /-- The frequency of the clock is known. -/
  isSome_clock : device.clock.isSome = true
  /-- All peripherals are self-contained. -/
  peripherals : ∀ descriptor ∈ device.peripherals, descriptor.IsSelfContained
  /-- No peripheral is described twice. -/
  nodup_ids : (device.peripherals.map Descriptor.id).Nodup
  /-- No two peripherals have the same routine. -/
  nodup_ownRoutines : device.ownRoutines.Nodup
  /-- No group of templates asks for the routine of a peripheral. -/
  not_mem_ownRoutines : ∀ descriptor ∈ device.peripherals, ∀ set ∈ descriptor.templates,
    ∀ routine ∈ set.routine, routine ∉ device.ownRoutines
  /-- No two interrupts have the same vector. -/
  nodup_vectors : device.vectors.Nodup

instance (device : Device) : Decidable device.IsSelfContained :=
  decidable_of_iff
    (device.clock.isSome = true ∧ (∀ descriptor ∈ device.peripherals, descriptor.IsSelfContained) ∧
      (device.peripherals.map Descriptor.id).Nodup ∧ device.ownRoutines.Nodup ∧
      (∀ descriptor ∈ device.peripherals, ∀ set ∈ descriptor.templates,
        ∀ routine ∈ set.routine, routine ∉ device.ownRoutines) ∧
      device.vectors.Nodup)
    ⟨fun ⟨hclock, hperipherals, hids, hown, hother, hvectors⟩ =>
        ⟨hclock, hperipherals, hids, hown, hother, hvectors⟩,
      fun ⟨hclock, hperipherals, hids, hown, hother, hvectors⟩ =>
        ⟨hclock, hperipherals, hids, hown, hother, hvectors⟩⟩

end Device

/-! ## Where contributions come from -/

namespace Descriptor

/-- The routine that an emission of a peripheral is for is its own, or one that a group of its
templates asks for. -/
theorem fragment_of_mem_emissions {descriptor : Descriptor} {state : State} {clock : Option Nat}
    (hcoherent : descriptor.IsCoherent) {emission : Emission}
    (h : emission ∈ descriptor.emissions state clock) :
    ∃ routine lines, emission.fragment =
        descriptor.fragmentFor (descriptor.argumentsOf state) routine lines ∧
      ∀ name ∈ routine, ∃ set ∈ descriptor.templates, name ∈ set.routine := by
  obtain ⟨job, hjob, rfl⟩ := List.mem_map.mp h
  rw [jobs_eq hcoherent] at hjob
  rcases List.mem_append.mp hjob with hjob | hjob
  · have hgroup : ∃ set parameters, job = .group set parameters ∧ set ∈ descriptor.templates := by
      rcases List.mem_append.mp hjob with hjob | hjob
      · obtain ⟨set, hset, rfl⟩ := List.mem_map.mp hjob
        rw [sharedSets_eq_chosen] at hset
        exact ⟨set, _, rfl, (mem_of_mem_chosen hset).1⟩
      · obtain ⟨pin, -, hjob⟩ := List.mem_flatMap.mp hjob
        obtain ⟨set, hset, rfl⟩ := List.mem_map.mp hjob
        rw [pinSets_eq_chosen] at hset
        exact ⟨set, _, rfl, (mem_of_mem_chosen hset).1⟩
    obtain ⟨set, parameters, rfl, hset⟩ := hgroup
    exact ⟨set.routine, _, rfl, fun name hname => ⟨set, hset, hname⟩⟩
  · obtain ⟨interrupt, -, rfl⟩ := List.mem_map.mp hjob
    exact ⟨none, _, rfl, nofun⟩

end Descriptor

namespace Device

variable {device : Device} {configuration : Configuration} {clock : Option Nat}

/-- A described peripheral is found. -/
theorem IsSelfContained.descriptor?_eq (hself : device.IsSelfContained) {descriptor : Descriptor}
    (h : descriptor ∈ device.peripherals) : device.descriptor? descriptor.id = some descriptor :=
  find?_key_eq_some hself.nodup_ids h

/-- All peripherals do what the rules on descriptors ask for. -/
theorem IsSelfContained.isCoherent (hself : device.IsSelfContained) {descriptor : Descriptor}
    (h : descriptor ∈ device.peripherals) : descriptor.IsCoherent :=
  Descriptor.fault?_eq_none_iff.mp (hself.peripherals descriptor h).fault?_eq_none

/-- Everything that is asked for has a value. -/
theorem IsSelfContained.isSupplied (hself : device.IsSelfContained)
    (hclean : IsClean (device.check configuration)) (frequency : Nat) {stage : Stage}
    (hstage : stage ∈ device.stages configuration) : stage.IsSupplied (some frequency) := by
  rcases mem_stages_iff.mp hstage with rfl | ⟨descriptor, hmem, state, -, hget, -, rfl⟩
  · trivial
  · obtain ⟨found, hfound, hfits⟩ := isClean_check_iff.mp hclean descriptor.id state hget
    rw [hself.descriptor?_eq hmem] at hfound
    cases hfound
    exact Descriptor.isSupplied_of_isSelfContained (hself.peripherals descriptor hmem) hfits
      frequency

/-- What a peripheral is called with in a configuration. -/
def argumentsIn (configuration : Configuration) (descriptor : Descriptor) : List String :=
  ((configuration.get? descriptor.id).map descriptor.argumentsOf).getD []

/-- How the routine of a name is declared and called. -/
def interfaceOf (device : Device) (configuration : Configuration) (name : String) :
    String × List String :=
  if name = (PinChange.routine device).name then ((PinChange.routine device).parameterList, [])
  else match (device.peripherals.filter fun descriptor => descriptor.id != .pcint).find? fun
      descriptor => descriptor.signature.name == name with
    | some descriptor => (descriptor.signature.parameterList, argumentsIn configuration descriptor)
    | none => (Routine.noParameters, [])

/-- All contributions to the routine of a name are declared and called alike. -/
theorem IsSelfContained.interface_eq (hself : device.IsSelfContained) {routine : Routine}
    (h : routine ∈ contributions (device.emissions configuration clock)) :
    routine.interface = device.interfaceOf configuration routine.name := by
  obtain ⟨hpinChange, hdistinct⟩ := List.nodup_cons.mp hself.nodup_ownRoutines
  obtain ⟨emission, hemission, -, rfl⟩ := exists_of_mem_contributions h
  obtain ⟨stage, hstage, hemission⟩ := List.mem_flatMap.mp hemission
  rcases mem_stages_iff.mp hstage with rfl | ⟨descriptor, hmem, state, hid, hget, -, rfl⟩
  · obtain ⟨group, -, rfl⟩ := List.mem_map.mp hemission
    exact (if_pos rfl).symm
  · obtain ⟨asked, lines, hfragment, hsets⟩ :=
      Descriptor.fragment_of_mem_emissions (hself.isCoherent hmem) hemission
    rw [hfragment]
    cases asked with
    | none =>
      have hown : descriptor ∈ device.peripherals.filter fun other => other.id != .pcint :=
        List.mem_filter.mpr ⟨hmem, bne_iff_ne.mpr hid⟩
      have hne : descriptor.signature.name ≠ (PinChange.routine device).name := fun heq =>
        hpinChange (heq ▸ List.mem_map_of_mem hown)
      have hfound := find?_key_eq_some hdistinct hown
      have harguments : argumentsIn configuration descriptor = descriptor.argumentsOf state := by
        rw [argumentsIn, hget]
        rfl
      simp only [Descriptor.fragmentFor, Fragment.routine, Routine.interface, interfaceOf,
        if_neg hne, hfound, harguments]
    | some name =>
      obtain ⟨set, hset, hname⟩ := hsets name rfl
      have hother := hself.not_mem_ownRoutines descriptor hmem set hset name hname
      have hne : name ≠ (PinChange.routine device).name := fun heq =>
        hother (heq ▸ List.mem_cons_self)
      have hnone : ((device.peripherals.filter fun other => other.id != .pcint).find? fun other =>
          other.signature.name == name) = none := by
        refine List.find?_eq_none.mpr fun other hmember heq => hother ?_
        exact List.mem_cons_of_mem _ (List.mem_map.mpr ⟨other, hmember, beq_iff_eq.mp heq⟩)
      simp only [Descriptor.fragmentFor, Fragment.routine, Routine.interface, interfaceOf,
        Signature.plain, if_neg hne, hnone]
      rfl

/-- The lines of the handler for a vector. -/
def handlerLinesOf (device : Device) (configuration : Configuration) (clock : Option Nat)
    (vector : String) : List String :=
  match device.sources.find? fun source => source.2.vector == vector with
  | some (descriptor, interrupt) =>
    ((configuration.get? descriptor.id).map fun state =>
      filledLines clock (descriptor.interruptParameters state interrupt) interrupt.handler).getD []
  | none => match Port.all.find? fun port => port.vector == vector with
    | some port => (PinChange.handler port
        ((PinChange.Pool.ofRequests (PinChange.requests device configuration)).pinsOn port)).lines
    | none => []

/-- All handlers for a vector do the same. -/
theorem IsSelfContained.lines_eq (hself : device.IsSelfContained) {handler : Handler}
    (h : handler ∈ handlersOf (device.emissions configuration clock)) :
    handler.lines = device.handlerLinesOf configuration clock handler.vector := by
  obtain ⟨hsources, hports, hdisjoint⟩ := List.nodup_append.mp hself.nodup_vectors
  obtain ⟨emission, hemission, hhandler⟩ := List.mem_flatMap.mp h
  rw [Option.mem_toList] at hhandler
  obtain ⟨stage, hstage, hemission⟩ := List.mem_flatMap.mp hemission
  rcases mem_stages_iff.mp hstage with rfl | ⟨descriptor, hmem, state, hid, hget, -, rfl⟩
  · obtain ⟨⟨port, pins⟩, hgroup, rfl⟩ := List.mem_map.mp hemission
    obtain rfl := (PinChange.Pool.mem_groups_iff.mp hgroup).1
    cases hhandler
    have hport : port ∈ Port.all := port.mem_all
    have hnone : (device.sources.find? fun source => source.2.vector == port.vector) = none := by
      refine List.find?_eq_none.mpr fun source hsource heq => ?_
      exact hdisjoint _ (List.mem_map_of_mem hsource) _ (List.mem_map_of_mem hport)
        (beq_iff_eq.mp heq)
    have hfound := find?_key_eq_some hports hport
    simp only [PinChange.handler, handlerLinesOf] at hnone hfound ⊢
    rw [hnone, hfound]
  · have hsome : emission.handler ≠ none := by simp [hhandler]
    obtain ⟨interrupt, hinterrupt, -, rfl⟩ :=
      (Descriptor.mem_emissions_iff (hself.isCoherent hmem) hsome).mp hemission
    cases hhandler
    have hsource : (descriptor, interrupt) ∈ device.sources :=
      List.mem_flatMap.mpr ⟨descriptor, hmem, List.mem_map_of_mem hinterrupt⟩
    have hfound := find?_key_eq_some hsources hsource
    simp only [handlerLinesOf, hfound, hget]
    rfl

/-- A clean configuration of a self-contained device gives code, whatever the clock. -/
theorem exists_artifact_of_isClean (hself : device.IsSelfContained)
    (hclean : IsClean (device.check configuration)) (clock : Option Nat) :
    ∃ artifact, device.generate configuration clock = .ok artifact := by
  have hclock : ∃ frequency, (clock <|> device.clock) = some frequency := by
    cases clock with
    | none => exact Option.isSome_iff_exists.mp hself.isSome_clock
    | some frequency => exact ⟨frequency, rfl⟩
  obtain ⟨frequency, hfrequency⟩ := hclock
  refine exists_artifact ?_ ?_ ?_
  · rw [hfrequency]
    exact fun stage => hself.isSupplied hclean frequency
  · exact .of_function _ fun routine => hself.interface_eq
  · exact .of_function _ fun handler => hself.lines_eq

end Device

/-- The ATmega328P is self-contained. -/
theorem Atmega328p.isSelfContained : device.IsSelfContained := by decide +kernel

/-- The converter, the comparator and a timer, with a compare value for its mode. -/
def Atmega328p.analogConfiguration : Configuration :=
  SortedMap.ofList
    [(.timer0, .pinBound (.ofList [(pinAt .d 6, ∅)]) (.ofList [("mode", .text "CTC")]) ∅),
      (.adc, .pinBound (.ofList [(pinAt .c 0, ∅), (pinAt .c 1, ∅)]) ∅ ∅),
      (.comparator, .pinBound (.ofList [(pinAt .d 7, ∅)]) ∅ (.ofList [("compare", true)]))]

/-- A configuration of the ATmega328P without errors always gives code. -/
theorem Atmega328p.generates_if_clean {configuration : Configuration}
    (hclean : ∀ diagnostic ∈ device.check configuration, diagnostic.isError = false)
    (clock : Option Nat) :
    ∃ artifact, device.generate configuration clock = .ok artifact :=
  Device.exists_artifact_of_isClean isSelfContained hclean clock

/-- The converter and the comparator share a routine, and still there is code for both. -/
theorem Atmega328p.generates_if_clean_analog :
    (∀ diagnostic ∈ device.check analogConfiguration, diagnostic.isError = false) ∧
      ∃ artifact, device.generate analogConfiguration none = .ok artifact :=
  ⟨by decide +kernel, generates_if_clean (by decide +kernel) none⟩

end AvrSetup
