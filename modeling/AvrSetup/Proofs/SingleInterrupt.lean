import AvrSetup.Atmega328p.Vocabulary
import AvrSetup.Code.Rendering
import AvrSetup.Proofs.Gathering
import AvrSetup.Proofs.Jobs

/-!
# An interrupt asked for by itself

A state may ask for nothing but one interrupt. If the interrupt needs a signal, the first pin
that carries the signal is then set up as well, without any settings of its own. This file
shows that this is no more than a short form: taking that pin and switching all other
interrupts off gives the same code, or fails in the same way
(`Device.expand_interruptOnly_eq_onPin`).
-/

namespace AvrSetup

/-- The state that takes one pin, without settings for the pin itself. -/
def State.onPin (pin : Pin) (settings : Settings) (interrupts : InterruptSwitches) : State :=
  .pinBound (SortedMap.ofList [(pin, ∅)]) settings interrupts

/-- The switches turn one interrupt of a descriptor on and all of its others off. -/
structure Descriptor.TurnsOnOnly (descriptor : Descriptor) (switches : InterruptSwitches)
    (name : String) : Prop where
  /-- The interrupt of the name is on. -/
  get?_eq : switches.get? name = some true
  /-- The others are off. -/
  get?_other : ∀ other ∈ descriptor.interrupts, other.name ≠ name →
    switches.get? other.name = some false

namespace State

variable {pin other : Pin} {settings : Settings} {interrupts : InterruptSwitches}

theorem get?_pinSettings_onPin :
    (onPin pin settings interrupts).pinSettings.get? other = if other = pin then some ∅ else none :=
  SortedMap.get?_insert SortedMap.empty pin other ∅

/-- The one pin is all that is taken. -/
theorem occupies_onPin : (onPin pin settings interrupts).occupies other = true ↔ other = pin := by
  rw [occupies, SortedMap.contains, get?_pinSettings_onPin]
  split <;> simp_all

/-- No settings are given for any pin. -/
theorem settingsAt_onPin : (onPin pin settings interrupts).settingsAt other = ∅ := by
  rw [settingsAt, get?_pinSettings_onPin]
  split <;> rfl

end State

namespace Descriptor

variable {descriptor : Descriptor} {interrupt : Interrupt} {signal : String} {pin : Pin}
  {settings : Settings} {switches : InterruptSwitches}

/-! ## Templates -/

/-- Where no group under the name of the interrupt applies, the groups for the peripheral are
those that are taken for any other state. -/
theorem sharedSets_interruptOnly {name : String} {own : Settings}
    (hfree : ∀ set ∈ descriptor.templates, set.scope = .peripheral → set.key = name →
      set.appliesTo settings = false) :
    descriptor.sharedSets (.interruptOnly name own) settings =
      descriptor.peripheralSets settings := by
  have hnone : descriptor.applicable .peripheral settings name = [] := by
    apply List.filter_eq_nil_iff.mpr
    intro set hset hchosen
    simp only [Bool.and_eq_true, beq_iff_eq] at hchosen
    obtain ⟨⟨hscope, hkey⟩, happlies⟩ := hchosen
    rw [hfree set hset hscope hkey] at happlies
    cases happlies
  have hselected : descriptor.selected .peripheral [name] settings = [] := by
    rw [selected_eq_chosen, chosen_cons, hnone]
    rfl
  simp only [sharedSets, interruptSets, hselected]

/-! ## Pins -/

/-- A state with one declared pin visits that pin. -/
theorem visitedPins_onPin (hnodup : descriptor.declaredPins.Nodup)
    (hpin : pin ∈ descriptor.declaredPins) :
    descriptor.visitedPins (.onPin pin settings switches) = [pin] := by
  have htaken : descriptor.visitedPins (.onPin pin settings switches) =
      descriptor.declaredPins.filter (· == pin) := by
    apply List.filter_congr
    intro other _
    rw [Bool.eq_iff_iff, State.occupies_onPin, beq_iff_eq]
  rw [htaken, List.filter_beq, List.count_eq_one_of_mem hnodup hpin]
  rfl

/-- A state that asks only for an interrupt visits the first pin that carries its signal. -/
theorem visitedPins_interruptOnly (hnames : (descriptor.interrupts.map Interrupt.name).Nodup)
    (hinterrupt : interrupt ∈ descriptor.interrupts) (hsignal : interrupt.signal = some signal)
    (hpin : (descriptor.pinsOf signal).head? = some pin) :
    descriptor.visitedPins (.interruptOnly interrupt.name settings) = [pin] := by
  have hfound : descriptor.interrupt? interrupt.name = some interrupt :=
    find?_key_eq_some hnames hinterrupt
  simp [visitedPins, hfound, hsignal, hpin]

/-! ## Interrupts -/

/-- The switches keep all other interrupts off. -/
theorem isEnabled_onPin_of_ne (hswitches : descriptor.TurnsOnOnly switches interrupt.name)
    {other : Interrupt} (hother : other ∈ descriptor.interrupts)
    (hname : other.name ≠ interrupt.name) :
    isEnabled (.onPin pin settings switches) other = false := by
  have hoff : switches.get? other.name = some false := hswitches.get?_other other hother hname
  simp [isEnabled, State.interruptEnabled?, State.onPin, hoff]

/-- The switches want the same interrupts as the state that asks only for one. -/
theorem isEnabled_interruptOnly_eq (hswitches : descriptor.TurnsOnOnly switches interrupt.name)
    {other : Interrupt} (hother : other ∈ descriptor.interrupts) :
    isEnabled (.interruptOnly interrupt.name settings) other =
      isEnabled (.onPin pin settings switches) other := by
  by_cases hname : other.name = interrupt.name
  · simp [isEnabled, State.interruptEnabled?, State.onPin, hname, hswitches.get?_eq]
  · rw [isEnabled_onPin_of_ne hswitches hother hname]
    simp [isEnabled, State.interruptEnabled?, Ne.symm hname]

/-- The one pin carries the signal of the interrupt for both states. -/
theorem carrier?_interruptOnly_eq (hpin : (descriptor.pinsOf signal).head? = some pin) :
    descriptor.carrier? (.interruptOnly interrupt.name settings) interrupt.name signal =
      descriptor.carrier? (.onPin pin settings switches) interrupt.name signal := by
  obtain ⟨rest, hpins⟩ := List.head?_eq_some_iff.mp hpin
  have htaken : (State.onPin pin settings switches).occupies pin = true :=
    State.occupies_onPin.mpr rfl
  have hfound : (descriptor.pinsOf signal).find? (State.onPin pin settings switches).occupies =
      some pin := by
    rw [hpins, List.find?_cons, htaken]
  simp only [carrier?, if_true, hpin]
  exact hfound.symm

/-- The interrupts have the same jobs for both states. -/
theorem interruptJob?_interruptOnly_eq
    (hnames : (descriptor.interrupts.map Interrupt.name).Nodup)
    (hinterrupt : interrupt ∈ descriptor.interrupts) (hsignal : interrupt.signal = some signal)
    (hpin : (descriptor.pinsOf signal).head? = some pin)
    (hswitches : descriptor.TurnsOnOnly switches interrupt.name) (shared : Settings)
    {other : Interrupt} (hother : other ∈ descriptor.interrupts) :
    descriptor.interruptJob? (.interruptOnly interrupt.name settings) shared other =
      descriptor.interruptJob? (.onPin pin settings switches) shared other := by
  have henabled : isEnabled (.interruptOnly interrupt.name settings) other =
      isEnabled (.onPin pin settings switches) other :=
    isEnabled_interruptOnly_eq hswitches hother
  by_cases hname : other.name = interrupt.name
  · obtain rfl : other = interrupt := List.inj_on_of_nodup_map hnames hother hinterrupt hname
    have hcarrier : descriptor.carrier? (.interruptOnly other.name settings) other.name signal =
        descriptor.carrier? (.onPin pin settings switches) other.name signal :=
      carrier?_interruptOnly_eq hpin
    simp only [interruptJob?, henabled, hsignal, hcarrier]
  · -- Any other interrupt is off, so its carrier does not matter.
    have hoff : isEnabled (.onPin pin settings switches) other = false :=
      isEnabled_onPin_of_ne hswitches hother hname
    simp only [interruptJob?, henabled, hoff, Bool.false_and, Bool.false_eq_true, if_false]

/-! ## Code -/

/-- Both states ask for the same jobs. -/
theorem jobs_interruptOnly_eq (hcoherent : descriptor.IsCoherent)
    (hnames : (descriptor.interrupts.map Interrupt.name).Nodup)
    (hinterrupt : interrupt ∈ descriptor.interrupts) (hsignal : interrupt.signal = some signal)
    (hpin : (descriptor.pinsOf signal).head? = some pin)
    (hfree : ∀ set ∈ descriptor.templates, set.scope = .peripheral → set.key = interrupt.name →
      set.appliesTo (settings.effective descriptor.fields .peripheral) = false)
    (hswitches : descriptor.TurnsOnOnly switches interrupt.name) :
    descriptor.jobs (.interruptOnly interrupt.name settings) =
      descriptor.jobs (.onPin pin settings switches) := by
  have hdeclared : pin ∈ descriptor.declaredPins :=
    mem_declaredPins_of_pinsOf (List.mem_of_head? hpin)
  have hpins : descriptor.pinsInUse (.interruptOnly interrupt.name settings) =
      descriptor.pinsInUse (.onPin pin settings switches) := by
    rw [pinsInUse_eq_map hcoherent.nodup_declaredPins,
      pinsInUse_eq_map hcoherent.nodup_declaredPins,
      visitedPins_interruptOnly hnames hinterrupt hsignal hpin,
      visitedPins_onPin hcoherent.nodup_declaredPins hdeclared]
    simp only [State.settingsAt_onPin]
    rfl
  have hinterrupts (shared : Settings) :
      descriptor.interrupts.filterMap
          (descriptor.interruptJob? (.interruptOnly interrupt.name settings) shared) =
        descriptor.interrupts.filterMap
          (descriptor.interruptJob? (.onPin pin settings switches) shared) :=
    List.filterMap_congr fun _ hother =>
      interruptJob?_interruptOnly_eq hnames hinterrupt hsignal hpin hswitches shared hother
  have hshared : descriptor.sharedSets (.interruptOnly interrupt.name settings)
        (descriptor.peripheralSettings (.interruptOnly interrupt.name settings)) =
      descriptor.sharedSets (.onPin pin settings switches)
        (descriptor.peripheralSettings (.onPin pin settings switches)) :=
    sharedSets_interruptOnly hfree
  unfold jobs
  dsimp only
  rw [hshared, hpins, hinterrupts]
  rfl

/-- States with the same settings and the same jobs give the same code. -/
theorem expand_congr {first second : State}
    (hjobs : descriptor.jobs first = descriptor.jobs second)
    (hsettings : first.settings = second.settings) (hfirst : first.isActive = true)
    (hsecond : second.isActive = true) (clock : Option Nat) :
    descriptor.expand first clock = descriptor.expand second clock := by
  simp only [expand, if_pos hfirst, if_pos hsecond, peripheralSettings, hsettings, hjobs]

end Descriptor

/-- Asking only for an interrupt is asking for it on its pin. For a peripheral of an accepted
device whose interrupts have different names, let an interrupt need a signal, and let no group
of templates for the peripheral apply under the name of the interrupt. Then the state that asks
only for this interrupt has the same code, or the same failure, as the state that takes the
first pin with the signal and turns all other interrupts off. -/
theorem Device.expand_interruptOnly_eq_onPin {text : String} {device : Device}
    (hparse : parse text = .ok device) {descriptor : Descriptor}
    (hdescriptor : descriptor ∈ device.peripherals)
    (hnames : (descriptor.interrupts.map Interrupt.name).Nodup) {interrupt : Interrupt}
    (hinterrupt : interrupt ∈ descriptor.interrupts) {signal : String}
    (hsignal : interrupt.signal = some signal) {settings : Settings}
    (hfree : ∀ set ∈ descriptor.templates, set.scope = .peripheral → set.key = interrupt.name →
      set.appliesTo (settings.effective descriptor.fields .peripheral) = false)
    {switches : InterruptSwitches} (hswitches : descriptor.TurnsOnOnly switches interrupt.name)
    (clock : Option Nat) :
    ∃ pin, (descriptor.pinsOf signal).head? = some pin ∧
      descriptor.expand (.interruptOnly interrupt.name settings) clock =
        descriptor.expand (.onPin pin settings switches) clock := by
  have hcoherent := (isCoherent_of_parse hparse).isCoherent descriptor hdescriptor
  have hne := hcoherent.pinsOf_ne_nil interrupt hinterrupt signal hsignal
  obtain ⟨pin, hpin⟩ := Option.ne_none_iff_exists'.mp (mt List.head?_eq_none_iff.mp hne)
  have hjobs : descriptor.jobs (.interruptOnly interrupt.name settings) =
      descriptor.jobs (.onPin pin settings switches) :=
    Descriptor.jobs_interruptOnly_eq hcoherent hnames hinterrupt hsignal hpin hfree hswitches
  exact ⟨pin, hpin, Descriptor.expand_congr hjobs rfl rfl rfl clock⟩

/-! ## A small device with two external interrupts -/

open Atmega328p (code fill text)

/-- A description of a device with two external interrupts. The first needs a signal, and has
templates of its own that apply only if a setting asks for them. The second is on by default. -/
def extintText : String :=
  "<device name='m'><peripheral id='extint' kind='pin-bound'>" ++
  "<signal name='S' pins='PD2 PD4'/>" ++
  "<field key='f' kind='flag' scope='peripheral' default='false'/>" ++
  "<interrupt name='A' vector='V' signal='S'><enable>E \x7b\x7bpin\x7d\x7d;</enable></interrupt>" ++
  "<interrupt name='B' vector='W' default='true'/>" ++
  "<templates scope='peripheral' key='A' when='f'/>" ++
  "<templates scope='pin' key='S'><line>L;</line></templates>" ++
  "</peripheral></device>"

/-- The interrupt that needs a signal. -/
def extintInterrupt : Interrupt :=
  ⟨"A", "A", "", "V", false, none, some "S", [code [text "E ", fill "pin", text ";"]], []⟩

/-- The external interrupts. -/
def extintDescriptor : Descriptor :=
  { id := .extint, name := "extint", footprint := .pinBound, needsAllPins := false
    signals := [⟨"S", Atmega328p.portD [2, 4]⟩]
    fields := [Atmega328p.flag .peripheral "f" "f" false]
    mode := none, tables := ∅, signature := .plain "extint_init"
    interrupts := [extintInterrupt, ⟨"B", "B", "", "W", true, none, none, [], []⟩]
    templates := [Atmega328p.onlyWhen (.isSet "f") (Atmega328p.once "A" []),
      Atmega328p.perPin "S" [Atmega328p.plain "L;"]] }

/-- The device that has nothing but external interrupts. -/
def extintDevice : Device := ⟨"m", none, [extintDescriptor], []⟩

/-- The description is accepted. -/
theorem Device.parse_extintText : parse extintText = .ok extintDevice := by decide +kernel

/-- Asking only for the first interrupt is the same as taking the pin `PD2` with the second
interrupt off. -/
theorem expand_interruptOnly_extint :
    ∃ pin expansion, pin.name = "PD2" ∧
      extintDescriptor.expand (.interruptOnly "A" ∅) none = .ok expansion ∧
      extintDescriptor.expand (.onPin pin ∅ (.ofList [("A", true), ("B", false)])) none =
        .ok expansion ∧
      expansion.linesOf "extint_init" = ["L;", "E PD2;"] := by
  have hdescriptor : extintDescriptor ∈ extintDevice.peripherals := List.mem_singleton.mpr rfl
  have hinterrupt : extintInterrupt ∈ extintDescriptor.interrupts := List.mem_cons_self
  have hsignal : extintInterrupt.signal = some "S" := rfl
  have hfree : ∀ set ∈ extintDescriptor.templates, set.scope = .peripheral →
      set.key = extintInterrupt.name →
      set.appliesTo ((∅ : Settings).effective extintDescriptor.fields .peripheral) = false := by
    decide
  have hswitches :
      extintDescriptor.TurnsOnOnly (SortedMap.ofList [("A", true), ("B", false)]) "A" :=
    ⟨by decide, by decide⟩
  obtain ⟨pin, hpin, heq⟩ :=
    Device.expand_interruptOnly_eq_onPin Device.parse_extintText hdescriptor (by decide)
      hinterrupt hsignal hfree hswitches none
  obtain ⟨expansion, hexpand, hlines⟩ : ∃ expansion,
      extintDescriptor.expand (.interruptOnly "A" ∅) none = .ok expansion ∧
        expansion.linesOf "extint_init" = ["L;", "E PD2;"] :=
    ⟨_, by rfl, by rfl⟩
  have hname : pin = Atmega328p.pinAt .d 2 := (Option.some.inj hpin).symm
  exact ⟨pin, expansion, hname ▸ rfl, hexpand, heq ▸ hexpand, hlines⟩

end AvrSetup
