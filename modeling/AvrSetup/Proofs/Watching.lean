import AvrSetup.Proofs.Assembly
import AvrSetup.Proofs.Pooling

/-!
# Which pins are watched

Requests for pins are pooled, sorted into ports and put together to one routine. What comes out can
be told pin by pin, from the settings that are in force for it (`PinChange.isAskedFor`,
`PinChange.wantsPullUp`), without any of these steps (`PinChange.watches_asked_pins`).
-/

namespace AvrSetup.PinChange

/-! ## Pins that are asked for -/

section

variable (device : Device) (configuration : Configuration)

/-- The settings in force for a pin of a peripheral, if that is described, reaches the pin, and
takes it. -/
def settingsFor? (id : Peripheral) (pin : Pin) : Option Settings :=
  match device.descriptor? id, configuration.get? id with
  | some descriptor, some (.pinBound pins settings _) =>
    if descriptor.declaresPin pin then (pins.get? pin).map (descriptor.pinSettings settings)
    else none
  | _, _ => none

/-- A pin is assigned to the pin-change interrupts. -/
def isAssigned (pin : Pin) : Bool := (settingsFor? device configuration .pcint pin).isSome

/-- A pin is a plain pin with the flag for pin changes. -/
def isFlagged (pin : Pin) : Bool :=
  (settingsFor? device configuration .gpio pin).any fun settings => settings.isTruthy "pcint"

/-- A pin is asked for by either peripheral. -/
def isAskedFor (pin : Pin) : Bool :=
  isAssigned device configuration pin || isFlagged device configuration pin

/-- One of the peripherals that ask for a pin wants its pull-up: the pin-change interrupts by a
setting, and a plain pin by its mode. -/
def wantsPullUp (pin : Pin) : Bool :=
  ((settingsFor? device configuration .pcint pin).any fun settings =>
      settings.isTruthy "pullup") ||
    isFlagged device configuration pin &&
      (settingsFor? device configuration .gpio pin).any fun settings =>
        (settings.get? "mode").any fun value => value.keyText == "INPUT_PULLUP"

/-- The pins of a port that are asked for, by ascending bit. -/
def askedPins (port : Port) : List Pin :=
  ((List.finRange 8).map fun bit => ⟨port, bit⟩).filter (isAskedFor device configuration)

/-- The ports with pins that are asked for, ascending. -/
def askedPorts : List Port :=
  Port.all.filter fun port => !(askedPins device configuration port).isEmpty

/-- The lines for a pin: one that makes it an input, and one for the pull-up if that is wanted. -/
def pinLines (pin : Pin) : List String :=
  ("DDR" ++ pin.port.letter ++ " &= ~_BV(DD" ++ pin.port.letter ++ toString pin.bit.val ++ ");") ::
    if wantsPullUp device configuration pin then
      [setBit ("PORT" ++ pin.port.letter) ("PORT" ++ pin.port.letter ++ toString pin.bit.val)]
    else []

/-- The lines for a port: those for its pins, one that enables the interrupt, and one that
unmasks the pins. -/
def portLines (port : Port) : List String :=
  (askedPins device configuration port).flatMap (pinLines device configuration) ++
    [setBit "PCICR" port.enableBit,
      port.maskRegister ++ " |= " ++ String.intercalate " | "
        ((askedPins device configuration port).map fun pin => "_BV(" ++ lineName pin ++ ")") ++ ";"]

/-- The handler for a port, with a test for each of its pins. -/
def portHandler (port : Port) : Handler :=
  ⟨port.vector, port.groupLabel,
    ["static uint8_t previous;", "uint8_t pins = PIN" ++ port.letter ++ ";",
      "uint8_t changed = pins ^ previous;", "previous = pins;"] ++
      (askedPins device configuration port).flatMap changeLines⟩

end

variable {device : Device} {configuration : Configuration}

/-- A pin is configured with the settings in force for it. -/
theorem mem_configuredPins_iff {id : Peripheral} {pin : Pin} {settings : Settings} :
    (pin, settings) ∈ configuredPins device configuration id ↔
      settingsFor? device configuration id pin = some settings := by
  rw [mem_configuredPins, settingsFor?]
  constructor
  · rintro ⟨descriptor, state, given, hdescriptor, hstate, hgiven, hdeclared, rfl⟩
    rw [hdescriptor, hstate]
    cases state with
    | pinBound pins shared interrupts =>
      have hpin : pins.get? pin = some given := hgiven
      simp only [hdeclared, if_true, hpin, Option.map_some]
      rfl
    | interruptOnly interrupt shared => cases hgiven
    | global enabled shared interrupts => cases hgiven
  · intro hsettings
    split at hsettings
    · next descriptor pins shared interrupts hdescriptor hstate =>
      split at hsettings
      · next hdeclared =>
        obtain ⟨given, hgiven, rfl⟩ := Option.map_eq_some_iff.mp hsettings
        exact ⟨descriptor, _, given, hdescriptor, hstate, hgiven, hdeclared, rfl⟩
      · cases hsettings
    · cases hsettings

/-- The pins that are asked for are those with a request. -/
theorem isAskedFor_iff {pin : Pin} : isAskedFor device configuration pin = true ↔
    ∃ request ∈ requests device configuration, request.pin = pin := by
  simp only [requests, List.mem_append, or_and_right, exists_or, exists_explicitRequest_iff,
    exists_flaggedRequest_iff, mem_configuredPins_iff, isAskedFor, isAssigned, isFlagged,
    Bool.or_eq_true, Option.isSome_iff_exists, Option.any_eq_true]

/-- Some request of the pin-change interrupts wants the pull-up of a pin if their settings for the
pin do. -/
theorem any_explicitRequests (pin : Pin) :
    ((explicitRequests device configuration).any fun request =>
        request.pin == pin && request.pullUp) =
      (settingsFor? device configuration .pcint pin).any fun settings =>
        settings.isTruthy "pullup" := by
  rw [Bool.eq_iff_iff, List.any_eq_true, Option.any_eq_true]
  constructor
  · rintro ⟨request, hrequest, hwanted⟩
    obtain ⟨⟨other, settings⟩, hconfigured, rfl⟩ := List.mem_map.mp hrequest
    obtain ⟨hpin, hpullUp⟩ := Bool.and_eq_true_iff.mp hwanted
    obtain rfl := beq_iff_eq.mp hpin
    exact ⟨settings, mem_configuredPins_iff.mp hconfigured, hpullUp⟩
  · rintro ⟨settings, hsettings, hpullUp⟩
    have hconfigured := mem_configuredPins_iff.mpr hsettings
    exact ⟨_, List.mem_map_of_mem hconfigured,
      Bool.and_eq_true_iff.mpr ⟨beq_self_eq_true pin, hpullUp⟩⟩

/-- Some request of plain input wants the pull-up of a pin if the pin is flagged and its mode
has it. -/
theorem any_flaggedRequests (pin : Pin) :
    ((flaggedRequests device configuration).any fun request =>
        request.pin == pin && request.pullUp) =
      (isFlagged device configuration pin &&
        (settingsFor? device configuration .gpio pin).any isPulledUp) := by
  rw [Bool.eq_iff_iff, List.any_eq_true, Bool.and_eq_true, isFlagged, Option.any_eq_true,
    Option.any_eq_true]
  constructor
  · rintro ⟨request, hrequest, hwanted⟩
    obtain ⟨⟨other, settings⟩, hmem, rfl⟩ := List.mem_map.mp hrequest
    obtain ⟨hconfigured, hflag⟩ := List.mem_filter.mp hmem
    obtain ⟨hpin, hpullUp⟩ := Bool.and_eq_true_iff.mp hwanted
    obtain rfl := beq_iff_eq.mp hpin
    have hsettings := mem_configuredPins_iff.mp hconfigured
    exact ⟨⟨settings, hsettings, hflag⟩, ⟨settings, hsettings, hpullUp⟩⟩
  · rintro ⟨⟨settings, hsettings, hflag⟩, ⟨other, hother, hpullUp⟩⟩
    obtain rfl := Option.some.inj (hsettings.symm.trans hother)
    have hconfigured := mem_configuredPins_iff.mpr hsettings
    exact ⟨_, List.mem_map_of_mem (List.mem_filter.mpr ⟨hconfigured, hflag⟩),
      Bool.and_eq_true_iff.mpr ⟨beq_self_eq_true pin, hpullUp⟩⟩

/-- The pull-up of a pin is wanted if some request for the pin wants it. -/
theorem wantsPullUp_eq_any (pin : Pin) : wantsPullUp device configuration pin =
    (requests device configuration).any fun request => request.pin == pin && request.pullUp := by
  rw [requests, List.any_append, any_explicitRequests, any_flaggedRequests]
  rfl

/-! ## The pool -/

/-- The pool has an entry for each pin that is asked for, in ascending order. -/
theorem entries_ofRequests :
    (Pool.ofRequests (requests device configuration)).entries =
      (Pin.all.filter (isAskedFor device configuration)).map fun pin =>
        (pin, wantsPullUp device configuration pin) := by
  let entries := (Pin.all.filter (isAskedFor device configuration)).map fun pin =>
    (pin, wantsPullUp device configuration pin)
  have hascending : entries.Pairwise fun left right => compare left.1 right.1 = .lt :=
    List.pairwise_map.mpr (Pin.ascending_all.sublist List.filter_sublist)
  have hsame : Pool.ofRequests (requests device configuration) = ⟨entries, hascending⟩ := by
    apply SortedMap.ext_mem
    rintro ⟨pin, pullUp⟩
    have hentry : (pin, pullUp) ∈ (Pool.ofRequests (requests device configuration)).entries ↔
        (Pool.ofRequests (requests device configuration)).get? pin = some pullUp :=
      ⟨SortedMap.get?_of_mem_entries, SortedMap.mem_entries_of_get?⟩
    rw [hentry, Pool.get?_ofRequests, ← wantsPullUp_eq_any]
    simp only [← isAskedFor_iff]
    simp [entries, Pin.mem_all]
  rw [hsame]

/-- The pins of a port in the pool are those that are asked for. -/
theorem pinsOn_ofRequests (port : Port) :
    (Pool.ofRequests (requests device configuration)).pinsOn port =
      (askedPins device configuration port).map fun pin =>
        (pin, wantsPullUp device configuration pin) := by
  have hswap : ((Pin.all.filter (isAskedFor device configuration)).filter fun pin =>
      pin.port == port) = askedPins device configuration port := by
    rw [askedPins, ← Pin.filter_port_all, List.filter_filter, List.filter_filter]
    simp only [Bool.and_comm]
  rw [Pool.pinsOn, entries_ofRequests, List.filter_map, ← hswap]
  rfl

/-- The pool has a group for each port with pins that are asked for. -/
theorem groups_ofRequests :
    (Pool.ofRequests (requests device configuration)).groups =
      (askedPorts device configuration).map fun port =>
        (port, (askedPins device configuration port).map fun pin =>
          (pin, wantsPullUp device configuration pin)) := by
  simp only [Pool.groups, askedPorts, pinsOn_ofRequests, List.filter_map, Function.comp_def,
    List.isEmpty_map]

/-! ## The code -/

/-- Emissions for ports go to one routine, and each has its own handler. -/
theorem ofEmissions_emission (signature : Signature) {groups : List (Port × List (Pin × Bool))}
    (hne : groups ≠ []) :
    Expansion.ofEmissions .pcint (groups.map fun (port, pins) => emission signature port pins) =
      ⟨.pcint, ∅, [⟨signature, [], groups.flatMap fun group => enableLines group.1 group.2⟩],
        groups.map fun group => handler group.1 group.2⟩ := by
  induction groups using List.reverseRecOn with
  | nil => exact absurd rfl hne
  | append_singleton groups group ih =>
    have hlines : (enableLines group.1 group.2).isEmpty = false := by simp [enableLines]
    have hincludes : (∅ : SortedSet String).union (.ofList []) = ∅ := rfl
    rw [List.map_append, List.map_singleton, Expansion.ofEmissions_concat]
    by_cases hfirst : groups = []
    · subst hfirst
      have hnone : Expansion.ofEmissions .pcint [] = ⟨.pcint, ∅, [], []⟩ := rfl
      simp [hnone, Expansion.add, emission, hlines, hincludes, Fragment.addTo]
    · rw [ih hfirst]
      simp [Expansion.add, emission, hlines, hincludes, Fragment.addTo]

/-- If any pins are asked for, the code is that for their ports. -/
theorem expansion?_eq_some_iff {expansion : Expansion} :
    expansion? device configuration = some expansion ↔
      askedPorts device configuration ≠ [] ∧ expansion = ⟨.pcint, ∅,
        [⟨routine device, [],
          (askedPorts device configuration).flatMap (portLines device configuration)⟩],
        (askedPorts device configuration).map (portHandler device configuration)⟩ := by
  have hlines (port : Port) : enableLines port ((askedPins device configuration port).map fun pin =>
      (pin, wantsPullUp device configuration pin)) = portLines device configuration port := by
    simp only [enableLines, portLines, List.map_map, List.flatMap_map]
    rfl
  have hhandler (port : Port) : handler port ((askedPins device configuration port).map fun pin =>
      (pin, wantsPullUp device configuration pin)) = portHandler device configuration port := by
    simp only [handler, portHandler, List.flatMap_map]
  by_cases hnone : askedPorts device configuration = []
  · simp [expansion?, groups_ofRequests, hnone]
  · have hgroups : (Pool.ofRequests (requests device configuration)).groups ≠ [] := by
      rw [groups_ofRequests]
      simpa using hnone
    have hsome : expansion? device configuration = some (Expansion.ofEmissions .pcint
        ((Pool.ofRequests (requests device configuration)).groups.map fun (port, pins) =>
          emission (routine device) port pins)) := by
      unfold expansion?
      split
      · next hempty => exact absurd hempty hgroups
      · rfl
    rw [hsome, ofEmissions_emission _ hgroups, groups_ofRequests]
    simp only [List.flatMap_map, List.map_map, Function.comp_def, hlines, hhandler,
      Option.some.injEq]
    constructor
    · rintro rfl
      exact ⟨hnone, rfl⟩
    · rintro ⟨-, rfl⟩
      rfl

end AvrSetup.PinChange
