import AvrSetup.Code.Job
import AvrSetup.Proofs.Description

/-!
# The templates, the pins and the interrupts that code is for

Jobs are found on a walk along the signals of a descriptor, with templates looked up key by
key. This file says the same without a search: the templates of a job are all that are
declared under one key and apply (`Descriptor.chosen`), each configured pin is visited once,
in the order of declaration (`Descriptor.visitedPins`), and an interrupt has a job exactly if
it is emitted, which can be told from the state alone (`Descriptor.emits`).
-/

namespace AvrSetup

/-- Whether the interrupt of a name is all that a state asks for. -/
def State.wantsOnly (state : State) (interrupt : String) : Bool :=
  match state with
  | .interruptOnly wanted _ => wanted == interrupt
  | _ => false

/-- The settings that a state gives for a pin. -/
def State.settingsAt (state : State) (pin : Pin) : Settings := (state.pinSettings.get? pin).getD ∅

/-- Members that are dropped or changed are filtered and then changed. -/
theorem filterMap_eq_map_filter {α β : Type} {f : α → Option β} {p : α → Bool} {g : α → β}
    {list : List α} (h : ∀ member ∈ list, f member = if p member then some (g member) else none) :
    list.filterMap f = (list.filter p).map g := by
  induction list with
  | nil => rfl
  | cons head rest ih =>
    obtain ⟨hhead, hrest⟩ := List.forall_mem_cons.mp h
    rw [List.filterMap_cons, hhead, List.filter_cons, ih hrest]
    split <;> simp_all

/-- A list of at most one member has no repetitions. -/
theorem nodup_toList {α : Type} (member : Option α) : member.toList.Nodup := by
  cases member <;> simp

/-- Where no pin is declared twice, a pin is found with the signal that declares it. -/
theorem find?_signal_of_mem {signals : List Signal} (hnodup : (signals.flatMap Signal.pins).Nodup)
    {signal : Signal} (hsignal : signal ∈ signals) {pin : Pin} (hpin : pin ∈ signal.pins) :
    (signals.find? fun other => other.pins.contains pin) = some signal := by
  induction signals with
  | nil => cases hsignal
  | cons head rest ih =>
    rw [List.flatMap_cons] at hnodup
    obtain ⟨-, hrest, hdisjoint⟩ := List.nodup_append.mp hnodup
    rcases List.mem_cons.mp hsignal with rfl | hmem
    · exact List.find?_cons_of_pos (List.contains_iff_mem.mpr hpin)
    · have hother : pin ∉ head.pins := fun hhead =>
        hdisjoint pin hhead pin (List.mem_flatMap.mpr ⟨signal, hmem, hpin⟩) rfl
      have hskip : head.pins.contains pin = false := by simp [hother]
      rw [List.find?_cons, hskip]
      exact ih hrest hmem

namespace Descriptor

variable {descriptor : Descriptor}

/-! ## Templates -/

/-- The groups of templates that are declared under a key and apply, in order. -/
def applicable (descriptor : Descriptor) (scope : Scope) (settings : Settings) (key : String) :
    List TemplateSet :=
  descriptor.templates.filter fun set =>
    set.scope == scope && set.key == key && set.appliesTo settings

/-- The groups of templates under the first key that has any that apply. -/
def chosen (descriptor : Descriptor) (scope : Scope) (keys : List String) (settings : Settings) :
    List TemplateSet :=
  match keys.find? fun key => descriptor.applicable scope settings key ≠ [] with
  | some key => descriptor.applicable scope settings key
  | none => []

/-- The keys under which the groups for the peripheral are looked up. -/
def sharedKeys (descriptor : Descriptor) (state : State) (settings : Settings) : List String :=
  (match state with
    | .interruptOnly wanted _ => [wanted]
    | _ => []) ++ (settings.modeKey? descriptor.mode).toList ++ [initKey]

/-- The keys under which the groups for a pin are looked up. -/
def pinKeys (descriptor : Descriptor) (signal : String) (settings : Settings) : List String :=
  (settings.modeKey? descriptor.mode).toList ++ [signal, initKey]

theorem chosen_cons (scope : Scope) (key : String) (keys : List String) (settings : Settings) :
    descriptor.chosen scope (key :: keys) settings =
      if descriptor.applicable scope settings key ≠ [] then
        descriptor.applicable scope settings key
      else descriptor.chosen scope keys settings := by
  unfold chosen
  rw [List.find?_cons]
  by_cases h : descriptor.applicable scope settings key = [] <;> simp [h]

/-- What is selected for a list of keys is chosen by them. -/
theorem selected_eq_chosen (scope : Scope) (keys : List String) (settings : Settings) :
    descriptor.selected scope keys settings = descriptor.chosen scope keys settings := by
  have hsets (key : String) :
      ((descriptor.templateSets scope key).filter fun set => set.appliesTo settings) =
        descriptor.applicable scope settings key := by
    rw [templateSets, applicable, List.filter_filter]
    exact List.filter_congr fun set _ => Bool.and_comm _ _
  unfold selected
  simp only [hsets]
  induction keys with
  | nil => rfl
  | cons key rest ih =>
    rw [chosen_cons, ← ih, List.map_cons, List.find?_cons]
    by_cases h : descriptor.applicable scope settings key = []
    · simp [h]
    · have hne : (descriptor.applicable scope settings key).isEmpty = false := by
        simpa using h
      simp [h, hne]

/-- The groups for the peripheral are chosen by its keys. -/
theorem sharedSets_eq_chosen (state : State) (settings : Settings) :
    descriptor.sharedSets state settings =
      descriptor.chosen .peripheral (descriptor.sharedKeys state settings) settings := by
  cases state with
  | interruptOnly wanted own =>
    simp only [sharedSets, interruptSets, peripheralSets, sharedKeys, selected_eq_chosen,
      List.cons_append, List.nil_append, chosen_cons]
    by_cases h : descriptor.applicable .peripheral settings wanted = []
    · simp [h, chosen]
    · rw [if_pos h, if_pos h]
      split
      · contradiction
      · rfl
  | pinBound pins own interrupts => exact selected_eq_chosen _ _ _
  | global enabled own interrupts => exact selected_eq_chosen _ _ _

/-- The groups for a pin are chosen by its keys. -/
theorem pinSets_eq_chosen (signal : String) (settings : Settings) :
    descriptor.pinSets signal settings =
      descriptor.chosen .pin (descriptor.pinKeys signal settings) settings :=
  selected_eq_chosen _ _ _

/-! ## Pins -/

/-- The signal that reaches a pin, empty if there is none. -/
def signalAt (descriptor : Descriptor) (pin : Pin) : String := (descriptor.signalOf pin).getD ""

/-- A declared pin has the signal that declares it. -/
theorem signalAt_eq (hnodup : descriptor.declaredPins.Nodup) {signal : Signal}
    (hsignal : signal ∈ descriptor.signals) {pin : Pin} (hpin : pin ∈ signal.pins) :
    descriptor.signalAt pin = signal.name := by
  rw [signalAt, signalOf, find?_signal_of_mem hnodup hsignal hpin]
  rfl

/-- A pin that a signal reaches has that signal. -/
theorem signalAt_eq_of_mem_pinsOf (hnodup : descriptor.declaredPins.Nodup) {signal : String}
    {pin : Pin} (hpin : pin ∈ descriptor.pinsOf signal) : descriptor.signalAt pin = signal := by
  unfold pinsOf at hpin
  split at hpin
  · next found hfound =>
    rw [signalAt_eq hnodup (List.mem_of_find?_eq_some hfound) hpin]
    simpa using List.find?_some hfound
  · cases hpin

/-- A pin that a signal reaches is declared. -/
theorem mem_declaredPins_of_pinsOf {signal : String} {pin : Pin}
    (hpin : pin ∈ descriptor.pinsOf signal) : pin ∈ descriptor.declaredPins := by
  unfold pinsOf at hpin
  split at hpin
  · next found hfound =>
    exact List.mem_flatMap.mpr ⟨found, List.mem_of_find?_eq_some hfound, hpin⟩
  · cases hpin

/-- The wiring lists the declared pins, each with its signal. -/
theorem wiring_eq_map (hnodup : descriptor.declaredPins.Nodup) :
    descriptor.wiring = descriptor.declaredPins.map fun pin => (descriptor.signalAt pin, pin) := by
  rw [wiring, declaredPins, List.map_flatMap]
  refine List.flatMap_congr fun signal hsignal => List.map_congr_left fun pin hpin => ?_
  rw [signalAt_eq hnodup hsignal hpin]

/-- The pins that are set up for a state: those that it takes, in the order of declaration,
or else the one that the only wanted interrupt claims. -/
def visitedPins (descriptor : Descriptor) (state : State) : List Pin :=
  match state with
  | .interruptOnly wanted _ =>
    (((descriptor.interrupt? wanted).bind Interrupt.signal).bind fun signal =>
      (descriptor.pinsOf signal).head?).toList
  | _ => descriptor.declaredPins.filter state.occupies

/-- No pin is visited twice. -/
theorem nodup_visitedPins (hnodup : descriptor.declaredPins.Nodup) (state : State) :
    (descriptor.visitedPins state).Nodup := by
  cases state with
  | pinBound pins settings interrupts => exact hnodup.filter _
  | interruptOnly wanted settings =>
    unfold visitedPins
    exact nodup_toList _
  | global enabled settings interrupts => exact hnodup.filter _

/-- Only declared pins are visited. -/
theorem mem_declaredPins_of_visitedPins {state : State} {pin : Pin}
    (hpin : pin ∈ descriptor.visitedPins state) : pin ∈ descriptor.declaredPins := by
  cases state with
  | pinBound pins settings interrupts => exact (List.mem_filter.mp hpin).1
  | interruptOnly wanted settings =>
    obtain ⟨signal, -, hhead⟩ := Option.bind_eq_some_iff.mp (Option.mem_toList.mp hpin)
    exact mem_declaredPins_of_pinsOf (List.mem_of_head? hhead)
  | global enabled settings interrupts => exact (List.mem_filter.mp hpin).1

/-- The visited pins are those that are set up, with their signals and settings. -/
theorem pinsInUse_eq_map (hnodup : descriptor.declaredPins.Nodup) (state : State) :
    descriptor.pinsInUse state = (descriptor.visitedPins state).map fun pin =>
      (descriptor.signalAt pin, pin, state.settingsAt pin) := by
  cases state with
  | pinBound pins settings interrupts =>
    unfold pinsInUse visitedPins
    simp only [wiring_eq_map hnodup, List.filterMap_map]
    refine filterMap_eq_map_filter fun pin _ => ?_
    cases hget : pins.get? pin <;>
      simp [State.occupies, State.settingsAt, State.pinSettings, SortedMap.contains, hget]
  | interruptOnly wanted settings =>
    simp only [pinsInUse, visitedPins, bind]
    cases descriptor.interrupt? wanted with
    | none => rfl
    | some found =>
      cases hsignal : found.signal with
      | none => simp [hsignal]
      | some signal =>
        cases hpin : (descriptor.pinsOf signal).head? with
        | none => simp [carrier?, hsignal, hpin]
        | some pin =>
          have hreached := signalAt_eq_of_mem_pinsOf hnodup (List.mem_of_head? hpin)
          simp only [carrier?, Option.bind_some, hsignal, hpin, if_true, Option.toList_some,
            List.map_singleton, hreached]
          rfl
  | global enabled settings interrupts =>
    have hfree (pin : Pin) : (State.global enabled settings interrupts).occupies pin = false := rfl
    simp [pinsInUse, visitedPins, hfree]

/-! ## Interrupts -/

/-- Whether an interrupt is emitted under a state: it is wanted, possible under the settings,
and if it needs a signal, then that has a configured pin or nothing else is wanted. -/
def emits (descriptor : Descriptor) (state : State) (interrupt : Interrupt) : Bool :=
  isEnabled state interrupt &&
    Condition.holdsIfGiven interrupt.applies (descriptor.peripheralSettings state) &&
    interrupt.signal.all fun signal =>
      (descriptor.pinsOf signal).any state.occupies || state.wantsOnly interrupt.name

/-- The parameters for the code of an interrupt. -/
def interruptParameters (descriptor : Descriptor) (state : State) (interrupt : Interrupt) :
    Parameters :=
  let shared := descriptor.parametersOf (descriptor.peripheralSettings state)
  let carried := match interrupt.signal with
    | some signal => match descriptor.carrier? state interrupt.name signal with
      | some pin => shared.atPin pin signal
      | none => shared
    | none => shared
  (carried.insert "vector" interrupt.vector).insert "label" interrupt.label

/-- A signal that reaches some pin has one for an interrupt if one of its pins is taken, or
if nothing but the interrupt is wanted. -/
theorem isSome_carrier? {state : State} {interrupt signal : String}
    (hpins : descriptor.pinsOf signal ≠ []) :
    (descriptor.carrier? state interrupt signal).isSome =
      ((descriptor.pinsOf signal).any state.occupies || state.wantsOnly interrupt) := by
  cases state with
  | pinBound pins settings interrupts =>
    simp only [carrier?, State.wantsOnly, Bool.or_false]
    rw [Bool.eq_iff_iff, List.find?_isSome, List.any_eq_true]
  | interruptOnly wanted settings =>
    have hfree (pin : Pin) : (State.interruptOnly wanted settings).occupies pin = false := rfl
    by_cases h : wanted = interrupt <;> simp [carrier?, State.wantsOnly, hfree, h, hpins]
  | global enabled settings interrupts =>
    simp only [carrier?, State.wantsOnly, Bool.or_false]
    rw [Bool.eq_iff_iff, List.find?_isSome, List.any_eq_true]

/-- An interrupt has a job if it is emitted. -/
theorem interruptJob?_eq {state : State} {interrupt : Interrupt}
    (hpins : ∀ signal, interrupt.signal = some signal → descriptor.pinsOf signal ≠ []) :
    descriptor.interruptJob? state (descriptor.peripheralSettings state) interrupt =
      if descriptor.emits state interrupt then
        some (.interrupt interrupt (descriptor.interruptParameters state interrupt))
      else none := by
  unfold interruptJob? emits interruptParameters
  cases hsignal : interrupt.signal with
  | none => simp
  | some signal =>
    rw [Option.all_some, ← isSome_carrier? (hpins signal hsignal)]
    cases hcarrier : descriptor.carrier? state interrupt.name signal with
    | none => simp [hcarrier]
    | some pin => simp [hcarrier]

/-! ## Jobs -/

/-- The jobs for a visited pin. -/
def visitJobs (descriptor : Descriptor) (state : State) (pin : Pin) : List Job :=
  descriptor.pinJobs (descriptor.peripheralSettings state) (descriptor.signalAt pin) pin
    (state.settingsAt pin)

/-- All jobs for a state: those for the peripheral, for each visited pin, and for each emitted
interrupt. -/
theorem jobs_eq (hcoherent : descriptor.IsCoherent) (state : State) :
    descriptor.jobs state =
      (descriptor.sharedSets state (descriptor.peripheralSettings state)).map
          (fun set => .group set (descriptor.parametersOf (descriptor.peripheralSettings state))) ++
        (descriptor.visitedPins state).flatMap (descriptor.visitJobs state) ++
        (descriptor.interrupts.filter (descriptor.emits state)).map fun interrupt =>
          .interrupt interrupt (descriptor.interruptParameters state interrupt) := by
  have hinterrupts : descriptor.interrupts.filterMap
        (descriptor.interruptJob? state (descriptor.peripheralSettings state)) =
      (descriptor.interrupts.filter (descriptor.emits state)).map fun interrupt =>
        .interrupt interrupt (descriptor.interruptParameters state interrupt) :=
    filterMap_eq_map_filter fun interrupt hinterrupt =>
      interruptJob?_eq (hcoherent.pinsOf_ne_nil interrupt hinterrupt)
  rw [jobs, pinsInUse_eq_map hcoherent.nodup_declaredPins, List.flatMap_map, hinterrupts]
  rfl

end Descriptor

end AvrSetup
