import AvrSetup.Proofs.Gathering
import AvrSetup.Proofs.SingleInterrupt

/-!
# Signals and the pins that they reach

A description lists signals with their pins. One search in this list leads from a pin to its
signal (`Descriptor.signalOf`), another one from a signal to its pins (`Descriptor.pinsOf`), and
both stop at the first match. An accepted description lists no pin twice, so the first search
misses nothing. It may list a signal twice, though, and then the second search finds only the
pins that come first. The two directions agree exactly if every signal with pins is the one that
its name leads to (`Descriptor.NamesItsSignals`).
-/

namespace AvrSetup

namespace Descriptor

variable {descriptor : Descriptor} {pin : Pin} {name : String} {state : State}

/-- Every signal that reaches a pin is the one that its name leads to. -/
def NamesItsSignals (descriptor : Descriptor) : Prop :=
  ∀ signal ∈ descriptor.signals, signal.pins ≠ [] →
    (descriptor.signals.find? fun other => other.name == signal.name) = some signal

instance (descriptor : Descriptor) : Decidable descriptor.NamesItsSignals :=
  inferInstanceAs (Decidable (∀ _ ∈ _, _))

/-- Signals with different names are those that their names lead to. -/
theorem namesItsSignals_of_nodup (h : (descriptor.signals.map Signal.name).Nodup) :
    descriptor.NamesItsSignals :=
  fun _ hsignal _ => find?_key_eq_some h hsignal

/-- The pins that a signal reaches are those of the first signal of its name. -/
theorem mem_pinsOf_iff : pin ∈ descriptor.pinsOf name ↔
    ∃ signal, (descriptor.signals.find? fun other => other.name == name) = some signal ∧
      pin ∈ signal.pins := by
  unfold pinsOf
  split
  · next signal hsignal =>
    rw [hsignal]
    simp
  · next hnone =>
    rw [hnone]
    simp

/-- Where no pin is listed twice, a pin has the signal of a name exactly if it is listed under
that name. -/
theorem signalOf_eq_some_iff (hnodup : descriptor.declaredPins.Nodup) :
    descriptor.signalOf pin = some name ↔
      ∃ signal ∈ descriptor.signals, signal.name = name ∧ pin ∈ signal.pins := by
  constructor
  · intro h
    obtain ⟨signal, hfound, hname⟩ := Option.map_eq_some_iff.mp h
    have hpin := List.find?_some hfound
    exact ⟨signal, List.mem_of_find?_eq_some hfound, hname, List.contains_iff_mem.mp hpin⟩
  · rintro ⟨signal, hsignal, rfl, hpin⟩
    rw [signalOf, find?_signal_of_mem hnodup hsignal hpin]
    rfl

/-- A pin that a signal reaches has that signal. -/
theorem signalOf_of_mem_pinsOf (hnodup : descriptor.declaredPins.Nodup)
    (h : pin ∈ descriptor.pinsOf name) : descriptor.signalOf pin = some name := by
  obtain ⟨signal, hfound, hpin⟩ := mem_pinsOf_iff.mp h
  have hname : signal.name = name := by simpa using List.find?_some hfound
  exact (signalOf_eq_some_iff hnodup).mpr
    ⟨signal, List.mem_of_find?_eq_some hfound, hname, hpin⟩

/-- The signal of a pin reaches it if the signals are those that their names lead to. -/
theorem NamesItsSignals.mem_pinsOf (hnames : descriptor.NamesItsSignals)
    (hnodup : descriptor.declaredPins.Nodup) (h : descriptor.signalOf pin = some name) :
    pin ∈ descriptor.pinsOf name := by
  obtain ⟨signal, hsignal, rfl, hpin⟩ := (signalOf_eq_some_iff hnodup).mp h
  exact mem_pinsOf_iff.mpr ⟨signal, hnames signal hsignal (List.ne_nil_of_mem hpin), hpin⟩

/-- The two directions of the pin mapping agree exactly if the signals are those that their names
lead to. -/
theorem mem_pinsOf_iff_signalOf_iff (hnodup : descriptor.declaredPins.Nodup) :
    (∀ pin name, pin ∈ descriptor.pinsOf name ↔ descriptor.signalOf pin = some name) ↔
      descriptor.NamesItsSignals := by
  constructor
  · intro hagree signal hsignal hpins
    obtain ⟨pin, hpin⟩ := List.exists_mem_of_ne_nil _ hpins
    have hnamed : descriptor.signalOf pin = some signal.name :=
      (signalOf_eq_some_iff hnodup).mpr ⟨signal, hsignal, rfl, hpin⟩
    obtain ⟨first, hfirst, hreached⟩ := mem_pinsOf_iff.mp ((hagree pin signal.name).mpr hnamed)
    -- Both signals list the pin, which is listed only once.
    have hsame := find?_signal_of_mem hnodup (List.mem_of_find?_eq_some hfirst) hreached
    rw [find?_signal_of_mem hnodup hsignal hpin] at hsame
    rw [hfirst, Option.some.inj hsame]
  · intro hnames pin name
    exact ⟨signalOf_of_mem_pinsOf hnodup, hnames.mem_pinsOf hnodup⟩

/-! ## Pins that are set up -/

/-- A pin is set up under the signal that it has. -/
theorem signalOf_of_mem_pinsInUse (hnodup : descriptor.declaredPins.Nodup) {given : Settings}
    (h : (name, pin, given) ∈ descriptor.pinsInUse state) :
    descriptor.signalOf pin = some name := by
  rw [pinsInUse_eq_map hnodup] at h
  obtain ⟨_, hvisited, heq⟩ := List.mem_map.mp h
  cases heq
  obtain ⟨signal, hsignal, hpin⟩ :=
    List.mem_flatMap.mp (mem_declaredPins_of_visitedPins hvisited)
  rw [signalAt_eq hnodup hsignal hpin]
  exact (signalOf_eq_some_iff hnodup).mpr ⟨signal, hsignal, rfl, hpin⟩

/-- While an interrupt is wanted, a pin that is set up is taken, or is set up for just this
interrupt. -/
theorem occupies_or_wantsOnly (hnodup : descriptor.declaredPins.Nodup) {given : Settings}
    (h : (name, pin, given) ∈ descriptor.pinsInUse state) {interrupt : Interrupt}
    (henabled : isEnabled state interrupt = true) :
    state.occupies pin = true ∨ state.wantsOnly interrupt.name = true := by
  rw [pinsInUse_eq_map hnodup] at h
  obtain ⟨_, hvisited, heq⟩ := List.mem_map.mp h
  cases heq
  cases state with
  | pinBound pins settings interrupts => exact Or.inl (List.mem_filter.mp hvisited).2
  | interruptOnly wanted settings => exact Or.inr henabled
  | global enabled settings interrupts => exact Or.inl (List.mem_filter.mp hvisited).2

/-- An interrupt whose signal reaches a pin that is set up has its code exactly if it is wanted
and applies. -/
theorem isSome_interruptJob?_of_mem_pinsInUse (hnodup : descriptor.declaredPins.Nodup)
    {given : Settings} (hused : (name, pin, given) ∈ descriptor.pinsInUse state)
    (hpin : pin ∈ descriptor.pinsOf name) {interrupt : Interrupt}
    (hsignal : interrupt.signal = some name) (settings : Settings) :
    (descriptor.interruptJob? state settings interrupt).isSome =
      (isEnabled state interrupt && Condition.holdsIfGiven interrupt.applies settings) := by
  unfold interruptJob?
  split
  · next h =>
    have henabled := (Bool.and_eq_true_iff.mp h).1
    have hcarried : (descriptor.carrier? state interrupt.name name).isSome = true := by
      rw [isSome_carrier? (List.ne_nil_of_mem hpin), Bool.or_eq_true]
      exact (occupies_or_wantsOnly hnodup hused henabled).imp_left fun htaken =>
        List.any_eq_true.mpr ⟨pin, hpin, htaken⟩
    simp only [hsignal, Option.isSome_map, hcarried, h]
  · next h => exact (Bool.not_eq_true _ ▸ h).symm

end Descriptor

namespace Device

/-- A pin that a signal of an accepted description reaches has that signal, and the converse holds
of all pins exactly if every signal with pins is the one that its name leads to, as it is where
names are not repeated. Then a pin that is set up under a signal counts as configured for every
interrupt that needs the signal: such an interrupt has its code if it is wanted and applies. -/
theorem signals_mapped_both_ways {text : String} {device : Device} {descriptor : Descriptor}
    (hdevice : parse text = .ok device) (hdescriptor : descriptor ∈ device.peripherals) :
    (∀ pin name, pin ∈ descriptor.pinsOf name → descriptor.signalOf pin = some name) ∧
    ((∀ pin name, pin ∈ descriptor.pinsOf name ↔ descriptor.signalOf pin = some name) ↔
      descriptor.NamesItsSignals) ∧
    ((descriptor.signals.map Signal.name).Nodup → descriptor.NamesItsSignals) ∧
    (descriptor.NamesItsSignals → ∀ state name pin given,
      (name, pin, given) ∈ descriptor.pinsInUse state →
        pin ∈ descriptor.pinsOf name ∧
          ∀ interrupt settings, interrupt.signal = some name →
            (descriptor.interruptJob? state settings interrupt).isSome =
              (Descriptor.isEnabled state interrupt &&
                Condition.holdsIfGiven interrupt.applies settings)) := by
  have hcoherent := (isCoherent_of_parse hdevice).isCoherent descriptor hdescriptor
  have hnodup := hcoherent.nodup_declaredPins
  refine ⟨fun _ _ => Descriptor.signalOf_of_mem_pinsOf hnodup,
    Descriptor.mem_pinsOf_iff_signalOf_iff hnodup, Descriptor.namesItsSignals_of_nodup, ?_⟩
  intro hnames state name pin given hused
  have hreached := hnames.mem_pinsOf hnodup (Descriptor.signalOf_of_mem_pinsInUse hnodup hused)
  refine ⟨hreached, fun interrupt settings hsignal => ?_⟩
  exact Descriptor.isSome_interruptJob?_of_mem_pinsInUse hnodup hused hreached hsignal settings

/-- A state that takes the second pin of the external interrupts. -/
def secondPinState : State := .pinBound (.ofList [(Atmega328p.pinAt .d 4, ∅)]) ∅ ∅

/-- The second pin of the signal counts as configured for the interrupt that needs the signal. -/
theorem signals_mapped_both_ways_extint :
    parse extintText = .ok extintDevice ∧ extintDescriptor ∈ extintDevice.peripherals ∧
      extintDescriptor.NamesItsSignals ∧
      ("S", Atmega328p.pinAt .d 4, ∅) ∈ extintDescriptor.pinsInUse secondPinState ∧
      Atmega328p.pinAt .d 4 ∈ extintDescriptor.pinsOf "S" ∧
      extintDescriptor.signalOf (Atmega328p.pinAt .d 4) = some "S" ∧
      (extintDescriptor.interruptJob? secondPinState ∅ extintInterrupt).isSome =
        Descriptor.isEnabled secondPinState extintInterrupt := by
  have hmem : extintDescriptor ∈ extintDevice.peripherals := List.mem_singleton.mpr rfl
  have hused : ("S", Atmega328p.pinAt .d 4, ∅) ∈ extintDescriptor.pinsInUse secondPinState := by
    decide +kernel
  obtain ⟨hsignal, -, hnodup, hmapped⟩ := signals_mapped_both_ways parse_extintText hmem
  have hnames : extintDescriptor.NamesItsSignals := hnodup (by decide)
  obtain ⟨hpin, hinterrupt⟩ := hmapped hnames secondPinState "S" _ _ hused
  refine ⟨parse_extintText, hmem, hnames, hused, hpin, hsignal _ _ hpin, ?_⟩
  exact (hinterrupt extintInterrupt ∅ rfl).trans (Bool.and_true _)

/-! ## A signal that is listed twice -/

/-- A description of external interrupts that lists their signal twice, with a pin each. -/
def repeatedText : String :=
  "<device name='m'><peripheral id='extint' kind='pin-bound'>" ++
  "<signal name='S' pins='PB0'/><signal name='S' pins='PB1'/>" ++
  "<interrupt name='A' vector='V' signal='S' default='true'><enable>E;</enable></interrupt>" ++
  "<templates scope='pin' key='S'><line>L;</line></templates>" ++
  "</peripheral></device>"

/-- The interrupt that needs the signal. -/
def repeatedInterrupt : Interrupt :=
  ⟨"A", "A", "", "V", true, none, some "S", [Atmega328p.plain "E;"], []⟩

/-- The external interrupts. -/
def repeatedDescriptor : Descriptor :=
  { id := .extint, name := "extint", footprint := .pinBound, needsAllPins := false
    signals := [⟨"S", Atmega328p.portB [0]⟩, ⟨"S", Atmega328p.portB [1]⟩], fields := []
    mode := none, tables := ∅, signature := .plain "extint_init"
    interrupts := [repeatedInterrupt]
    templates := [Atmega328p.perPin "S" [Atmega328p.plain "L;"]] }

/-- The device that has nothing but these external interrupts. -/
def repeatedDevice : Device := ⟨"m", none, [repeatedDescriptor], []⟩

/-- A state that takes the pin that is listed second. -/
def repeatedState : State := .pinBound (.ofList [(Atmega328p.pinAt .b 1, ∅)]) ∅ ∅

/-- The description is accepted. The pin that is listed second has the signal and is set up under
its name, but the signal does not reach it, and the interrupt that needs the signal is left out
although it is wanted. -/
theorem second_pin_unreached :
    parse repeatedText = .ok repeatedDevice ∧ repeatedDescriptor ∈ repeatedDevice.peripherals ∧
      repeatedDescriptor.signalOf (Atmega328p.pinAt .b 1) = some "S" ∧
      Atmega328p.pinAt .b 1 ∉ repeatedDescriptor.pinsOf "S" ∧
      ("S", Atmega328p.pinAt .b 1, ∅) ∈ repeatedDescriptor.pinsInUse repeatedState ∧
      Descriptor.isEnabled repeatedState repeatedInterrupt = true ∧
      (repeatedDescriptor.expand repeatedState none).map (Expansion.linesOf · "extint_init") =
        .ok ["L;"] ∧
      (repeatedDescriptor.expand repeatedState none).map Expansion.handlers = .ok [] :=
  ⟨by decide +kernel, List.mem_singleton_self _, by decide +kernel⟩

end Device

end AvrSetup
