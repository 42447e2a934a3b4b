import AvrSetup.Atmega328p.Vocabulary
import AvrSetup.Configuration.Basic
import AvrSetup.Device.Reader
import AvrSetup.Proofs.Success
import Mathlib.Data.List.Nodup

/-!
# What accepted descriptions guarantee

A description is refused at its first fault. So the descriptors of a device that is read
have none: their pins are all different, and what they refer to is declared
(`Descriptor.IsCoherent`). No two of them are about the same peripheral
(`Device.isCoherent_of_parse`).
-/

namespace AvrSetup

/-- No pin stands in a list a second time if none is found that does. -/
theorem firstRepeated_eq_none_iff {earlier pins : List Pin} :
    firstRepeated earlier pins = none ↔ pins.Nodup ∧ ∀ pin ∈ pins, pin ∉ earlier := by
  induction pins generalizing earlier with
  | nil => simp [firstRepeated]
  | cons pin rest ih =>
    rw [firstRepeated]
    by_cases h : pin ∈ earlier
    · rw [if_pos (List.contains_iff_mem.mpr h)]
      constructor
      · nofun
      · intro hboth
        exact absurd h (hboth.2 pin List.mem_cons_self)
    · rw [if_neg (fun hcontains => h (List.contains_iff_mem.mp hcontains)), ih,
        List.nodup_cons, List.forall_mem_cons]
      simp only [List.mem_cons, not_or]
      constructor
      · rintro ⟨hrest, hother⟩
        refine ⟨⟨?_, hrest⟩, h, fun other hmem => (hother other hmem).2⟩
        intro hmem
        exact (hother pin hmem).1 rfl
      · rintro ⟨⟨hpin, hrest⟩, -, hother⟩
        refine ⟨hrest, fun other hmem => ⟨?_, hother other hmem⟩⟩
        rintro rfl
        exact hpin hmem

namespace Descriptor

/-- What the rules on descriptors ask for. -/
structure IsCoherent (descriptor : Descriptor) : Prop where
  /-- A peripheral without pins has no signals. -/
  signals_eq_nil : descriptor.footprint = .global → descriptor.signals = []
  /-- No pin is declared twice. -/
  nodup_declaredPins : descriptor.declaredPins.Nodup
  /-- The settings that are referred to are declared. -/
  isSome_field : ∀ key ∈ descriptor.referredFields, (descriptor.field? key).isSome = true
  /-- The signals that interrupts need reach some pin. -/
  pinsOf_ne_nil : ∀ interrupt ∈ descriptor.interrupts, ∀ signal,
    interrupt.signal = some signal → descriptor.pinsOf signal ≠ []
  /-- No value that the mode setting lists derives a mode key that the table gives to another. -/
  modeCollision_eq_none : ∀ mode, descriptor.mode = some mode →
    descriptor.modeCollision? mode = none

/-- A descriptor without fault does what the rules ask for. -/
theorem fault?_eq_none_iff {descriptor : Descriptor} :
    descriptor.fault? = none ↔ descriptor.IsCoherent := by
  have hpins : firstRepeated [] descriptor.declaredPins = none ↔ descriptor.declaredPins.Nodup := by
    rw [firstRepeated_eq_none_iff]
    simp
  have hsignals : ((descriptor.interrupts.filterMap Interrupt.signal).find? fun signal =>
      (descriptor.pinsOf signal).isEmpty) = none ↔ ∀ interrupt ∈ descriptor.interrupts, ∀ signal,
        interrupt.signal = some signal → descriptor.pinsOf signal ≠ [] := by
    simp only [List.find?_eq_none, List.mem_filterMap, List.isEmpty_iff]
    constructor
    · intro h interrupt hinterrupt signal hsignal
      exact h signal ⟨interrupt, hinterrupt, hsignal⟩
    · rintro h signal ⟨interrupt, hinterrupt, hsignal⟩
      exact h interrupt hinterrupt signal hsignal
  have hfields : (descriptor.referredFields.find? fun key =>
      (descriptor.field? key).isNone) = none ↔
        ∀ key ∈ descriptor.referredFields, (descriptor.field? key).isSome = true := by
    simp [List.find?_eq_none, Option.isSome_iff_ne_none]
  have hmode : descriptor.mode.bind descriptor.modeCollision? = none ↔
      ∀ mode, descriptor.mode = some mode → descriptor.modeCollision? mode = none :=
    Option.bind_eq_none_iff
  have hglobal : (if descriptor.footprint = .global ∧ descriptor.signals ≠ [] then
      some (Device.Failure.globalWithPins descriptor.id) else none) = none ↔
        (descriptor.footprint = .global → descriptor.signals = []) := by
    split <;> simp_all
  simp only [fault?, Option.orElse_eq_orElse, Option.orElse_eq_or, Option.or_eq_none_iff,
    Option.map_eq_none_iff, hglobal, hpins, hfields, hsignals, hmode]
  constructor
  · rintro ⟨hglobal, hpins, hfields, hsignals, hmode⟩
    exact ⟨hglobal, hpins, hfields, hsignals, hmode⟩
  · rintro ⟨hglobal, hpins, hfields, hsignals, hmode⟩
    exact ⟨hglobal, hpins, hfields, hsignals, hmode⟩

end Descriptor

namespace Device

/-- What the rules on descriptions ask for. -/
structure IsCoherent (device : Device) : Prop where
  /-- All peripherals do what the rules on them ask for. -/
  isCoherent : ∀ descriptor ∈ device.peripherals, descriptor.IsCoherent
  /-- No peripheral is described twice. -/
  nodup_ids : (device.peripherals.map Descriptor.id).Nodup

/-- A peripheral that is read does what the rules ask for. -/
theorem isCoherent_of_readPeripheral {element : Xml.Element} {descriptor : Descriptor}
    (h : readPeripheral element = .ok descriptor) : descriptor.IsCoherent := by
  unfold readPeripheral at h
  simp only [bind_eq_ok_iff] at h
  obtain ⟨_, _, _, _, _, _, _, _, _, _, h⟩ := h
  split at h
  · cases h
  · next hfault =>
    cases h
    exact Descriptor.fault?_eq_none_iff.mp hfault

/-- Taking one more child keeps to the rules. -/
theorem isCoherent_of_takeDeviceChild {element child : Xml.Element} {device next : Device}
    (hdevice : device.IsCoherent) (h : takeDeviceChild element device child = .ok next) :
    next.IsCoherent := by
  unfold takeDeviceChild at h
  split at h
  · obtain ⟨descriptor, hread, h⟩ := bind_eq_ok_iff.mp h
    split at h
    · cases h
    · next hnew =>
      cases h
      constructor
      · intro other hother
        rcases List.mem_append.mp hother with hmem | hmem
        · exact hdevice.isCoherent other hmem
        · rw [List.mem_singleton.mp hmem]
          exact isCoherent_of_readPeripheral hread
      · rw [List.map_append, List.nodup_append]
        refine ⟨hdevice.nodup_ids, by simp, ?_⟩
        rintro id hid _ hlast rfl
        obtain ⟨other, hother, heq⟩ := List.mem_map.mp hid
        rw [List.map_singleton, List.mem_singleton] at hlast
        refine hnew (List.find?_isSome.mpr ⟨other, hother, beq_iff_eq.mpr ?_⟩)
        exact heq.trans hlast
  · obtain ⟨rules, -, h⟩ := bind_eq_ok_iff.mp h
    cases h
    exact ⟨hdevice.isCoherent, hdevice.nodup_ids⟩
  · cases h

/-- The peripherals of a device that is read come from a run over the children of an element. -/
theorem exists_run_of_parse {text : String} {device : Device} (h : parse text = .ok device) :
    ∃ (element : Xml.Element) (read : Device),
      element.elements.foldlM (takeDeviceChild element) ⟨"", none, [], []⟩ = .ok read ∧
        device.peripherals = read.peripherals := by
  obtain ⟨element, -, h⟩ := bind_eq_ok_iff.mp h
  refine ⟨element, ?_⟩
  unfold ofElement at h
  split at h
  · cases h
  · simp only [bind_eq_ok_iff] at h
    obtain ⟨read, hread, name, -, clock, -, heq⟩ := h
    cases heq
    exact ⟨read, hread, rfl⟩

/-- A device that is read does what the rules ask for. -/
theorem isCoherent_of_parse {text : String} {device : Device} (h : parse text = .ok device) :
    device.IsCoherent := by
  obtain ⟨element, read, hread, hperipherals⟩ := exists_run_of_parse h
  have hcoherent : read.IsCoherent :=
    foldlM_invariant (fun _ _ _ => isCoherent_of_takeDeviceChild) ⟨by simp, by simp⟩ hread
  exact ⟨hperipherals ▸ hcoherent.isCoherent, hperipherals ▸ hcoherent.nodup_ids⟩

/-- Every peripheral of a device that is read comes from an element of its own. -/
theorem exists_readPeripheral_of_parse {text : String} {device : Device}
    (h : parse text = .ok device) {descriptor : Descriptor}
    (hdescriptor : descriptor ∈ device.peripherals) :
    ∃ element, readPeripheral element = .ok descriptor := by
  obtain ⟨element, read, hread, hperipherals⟩ := exists_run_of_parse h
  have hall : ∀ descriptor ∈ read.peripherals,
      ∃ element, readPeripheral element = .ok descriptor := by
    refine foldlM_invariant (p := fun device : Device => ∀ descriptor ∈ device.peripherals,
      ∃ element, readPeripheral element = .ok descriptor) ?_ (List.forall_mem_nil _) hread
    intro device child next hdevice hnext
    unfold takeDeviceChild at hnext
    split at hnext
    · obtain ⟨descriptor, hdescriptor, hnext⟩ := bind_eq_ok_iff.mp hnext
      split at hnext
      · cases hnext
      · cases hnext
        exact List.forall_mem_append.mpr
          ⟨hdevice, List.forall_mem_singleton.mpr ⟨child, hdescriptor⟩⟩
    · obtain ⟨rules, -, hnext⟩ := bind_eq_ok_iff.mp hnext
      cases hnext
      exact hdevice
    · cases hnext
  exact hall descriptor (hperipherals ▸ hdescriptor)

/-! ## A small device -/

/-- A description of a device that has nothing but a watchdog. -/
def watchdogText : String :=
  "<device name='m'><peripheral id='wdt' kind='global'>" ++
  "<interrupt name='T' vector='V' default='true'><enable>E;</enable></interrupt>" ++
  "<templates scope='peripheral' key='init'><line>L;</line></templates>" ++
  "</peripheral></device>"

/-- The interrupt of the watchdog. -/
def watchdogInterrupt : Interrupt :=
  ⟨"T", "T", "", "V", true, none, none, [.ofSegments [.literal "E;"]], []⟩

/-- The watchdog. -/
def watchdogDescriptor : Descriptor :=
  { id := .watchdog, name := "wdt", footprint := .global, needsAllPins := false, signals := []
    fields := [], mode := none, tables := ∅, signature := .plain "wdt_init"
    interrupts := [watchdogInterrupt]
    templates := [⟨.peripheral, "init", none, none, [], [.ofSegments [.literal "L;"]]⟩] }

/-- The device that has nothing but a watchdog. -/
def watchdogDevice : Device := ⟨"m", none, [watchdogDescriptor], []⟩

/-- The description is accepted. -/
theorem parse_watchdogText : parse watchdogText = .ok watchdogDevice := by decide +kernel

/-! ## A small device with pins -/

/-- A description of external interrupts, whose pins are set up by a routine of another name, and of
pin-change interrupts. -/
def edgeText : String :=
  "<device name='m'><peripheral id='extint' kind='pin-bound'><signal name='S' pins='PB0 PB1'/>" ++
  "<interrupt name='A' vector='V' signal='S' default='true'><enable>E;</enable></interrupt>" ++
  "<templates scope='pin' key='S' routine='r'><line>\x7b\x7bpin\x7d\x7d;</line></templates>" ++
  "</peripheral><peripheral id='pcint' kind='pin-bound'><signal name='S' pins='PB2'/>" ++
  "</peripheral></device>"

/-- The interrupt of the pins. -/
def edgeInterrupt : Interrupt :=
  ⟨"A", "A", "", "V", true, none, some "S", [.ofSegments [.literal "E;"]], []⟩

/-- The external interrupts. -/
def edgeDescriptor : Descriptor :=
  { id := .extint, name := "extint", footprint := .pinBound, needsAllPins := false
    signals := [⟨"S", Atmega328p.portB [0, 1]⟩]
    fields := [], mode := none, tables := ∅, signature := .plain "extint_init"
    interrupts := [edgeInterrupt]
    templates := [⟨.pin, "S", none, some "r", [],
      [.ofSegments [.placeholder "pin", .literal ";"]]⟩] }

/-- The pin-change interrupts. -/
def edgeWatcher : Descriptor :=
  { id := .pcint, name := "pcint", footprint := .pinBound, needsAllPins := false
    signals := [⟨"S", Atmega328p.portB [2]⟩], fields := [], mode := none, tables := ∅
    signature := .plain "pcint_init", interrupts := [], templates := [] }

/-- The device of both. -/
def edgeDevice : Device := ⟨"m", none, [edgeDescriptor, edgeWatcher], []⟩

/-- The description is accepted. -/
theorem parse_edgeText : parse edgeText = .ok edgeDevice := by decide +kernel

end Device

/-- A configuration that switches the watchdog on. -/
def watchdogConfiguration : Configuration :=
  SortedMap.ofList [(.watchdog, .global true ∅ ∅)]

/-- A state that takes two pins. -/
def edgeState : State :=
  .pinBound (.ofList [(Atmega328p.pinAt .b 0, ∅), (Atmega328p.pinAt .b 1, ∅)]) ∅ ∅

/-- A configuration that takes both pins of the external interrupts, and watches another one. -/
def edgeConfiguration : Configuration :=
  SortedMap.ofList
    [(.extint, edgeState), (.pcint, .pinBound (.ofList [(Atmega328p.pinAt .b 2, ∅)]) ∅ ∅)]

end AvrSetup
