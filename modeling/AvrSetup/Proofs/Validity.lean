import AvrSetup.Diagnosis.Check

/-!
# What it means that a check finds no error

Errors are found setting by setting, pin by pin and peripheral by peripheral. This file turns
their absence into a statement about the configuration: every state fits the descriptor of
its peripheral (`Device.isClean_check_iff`). The only thing that is said about a state without
being an error is that some of its pins are missing. What fits is then said without the checks
(`Device.Allows`), so that their order and their early ends no longer matter
(`Device.error_free_iff_allows`).
-/

namespace AvrSetup

/-- No diagnostic of a list is an error. -/
def IsClean (diagnostics : List Diagnostic) : Prop :=
  ∀ diagnostic ∈ diagnostics, diagnostic.isError = false

@[simp] theorem isClean_nil : IsClean [] := List.forall_mem_nil _

@[simp] theorem isClean_append {first second : List Diagnostic} :
    IsClean (first ++ second) ↔ IsClean first ∧ IsClean second :=
  List.forall_mem_append

@[simp] theorem isClean_singleton {diagnostic : Diagnostic} :
    IsClean [diagnostic] ↔ diagnostic.isError = false := by
  simp [IsClean]

theorem isClean_flatMap {α : Type} {list : List α} {f : α → List Diagnostic} :
    IsClean (list.flatMap f) ↔ ∀ member ∈ list, IsClean (f member) := by
  simp only [IsClean, List.mem_flatMap, forall_exists_index, and_imp]
  exact ⟨fun h member hmember diagnostic => h diagnostic member hmember,
    fun h diagnostic member hmember => h member hmember diagnostic⟩

/-- The entries of a map are clean if those for its lookups are. -/
theorem isClean_flatMap_entries {α β : Type} [Ord α] [Std.LawfulEqOrd α] {map : SortedMap α β}
    {f : α × β → List Diagnostic} :
    IsClean (map.entries.flatMap f) ↔
      ∀ key value, map.get? key = some value → IsClean (f (key, value)) := by
  rw [isClean_flatMap]
  constructor
  · intro h key value hget
    exact h (key, value) (SortedMap.mem_entries_of_get? hget)
  · rintro h ⟨key, value⟩ hmem
    exact h key value (SortedMap.get?_of_mem_entries hmem)

namespace Descriptor

variable {descriptor : Descriptor} {state : State}

/-- A setting may have a value, given for the peripheral or for a pin. -/
def Accepts (descriptor : Descriptor) (pin : Option Pin) (key : String) (value : Value) : Prop :=
  ∃ field, descriptor.field? key = some field ∧ field.kind.admits value = true ∧
    (pin.isSome = true → field.scope = .pin)

/-- All settings of a record may have their values. -/
def AcceptsAll (descriptor : Descriptor) (pin : Option Pin) (settings : Settings) : Prop :=
  ∀ key value, settings.get? key = some value → descriptor.Accepts pin key value

/-- A state is one that a peripheral can have. -/
structure Fits (descriptor : Descriptor) (state : State) : Prop where
  /-- Its shape is possible. -/
  shape : descriptor.shapeProblem? state = none
  /-- Its settings for the peripheral may have their values. -/
  settings : descriptor.AcceptsAll none state.settings
  /-- Its pins are declared, and their settings may have their values. -/
  pins : ∀ pin given, state.pinSettings.get? pin = some given →
    descriptor.declaresPin pin = true ∧ descriptor.AcceptsAll (some pin) given
  /-- The interrupts that it names exist. -/
  interrupts : ∀ entry ∈ state.interruptEntries, (descriptor.interrupt? entry.1).isSome = true

/-- A setting is clean if it may have its value. -/
theorem isClean_settingProblems {pin : Option Pin} {key : String} {value : Value} :
    IsClean (descriptor.settingProblems pin key value) ↔ descriptor.Accepts pin key value := by
  unfold settingProblems Accepts
  cases hfield : descriptor.field? key with
  | none => simp [Diagnostic.isError]
  | some field =>
    simp only [isClean_append, Option.some.injEq, exists_eq_left']
    rw [and_comm]
    refine and_congr ?_ ?_
    · by_cases h : field.kind.admits value = true <;> simp [h, Diagnostic.isError]
    · cases pin <;> cases field.scope <;> simp [Diagnostic.isError]

/-- A record is clean if all of its settings may have their values. -/
theorem isClean_recordProblems {pin : Option Pin} {settings : Settings} :
    IsClean (descriptor.recordProblems pin settings) ↔ descriptor.AcceptsAll pin settings := by
  rw [recordProblems, isClean_flatMap_entries]
  exact forall₂_congr fun key value => imp_congr_right fun _ => isClean_settingProblems

/-- A pin is clean if it is declared and its settings may have their values. -/
theorem isClean_pinProblems {pin : Pin} {given : Settings} :
    IsClean (descriptor.pinProblems pin given) ↔
      descriptor.declaresPin pin = true ∧ descriptor.AcceptsAll (some pin) given := by
  unfold pinProblems
  by_cases h : descriptor.declaresPin pin = true
  · simp [h, isClean_recordProblems]
  · simp [h, Diagnostic.error, Diagnostic.atPin, Diagnostic.isError]

/-- That pins are missing is no error. -/
theorem isClean_incompleteProblems : IsClean (descriptor.incompleteProblems state) := by
  unfold incompleteProblems
  dsimp only
  split
  · exact isClean_singleton.mpr rfl
  · exact isClean_nil

/-- The interrupts are clean if all that are named exist. -/
theorem isClean_interruptProblems :
    IsClean (descriptor.interruptProblems state) ↔
      ∀ entry ∈ state.interruptEntries, (descriptor.interrupt? entry.1).isSome = true := by
  unfold interruptProblems IsClean
  simp only [List.mem_map, List.mem_filter, Option.isNone_iff_eq_none]
  constructor
  · intro h entry hentry
    cases hfound : descriptor.interrupt? entry.1 with
    | some interrupt => rfl
    | none => cases h _ ⟨entry, ⟨hentry, hfound⟩, rfl⟩
  · rintro h _ ⟨entry, ⟨hentry, hmissing⟩, rfl⟩
    have hsome := h entry hentry
    rw [hmissing] at hsome
    cases hsome

/-- A shape that is not possible is an error. -/
theorem isError_of_shapeProblem? {problem : Diagnostic}
    (h : descriptor.shapeProblem? state = some problem) :
    problem.isError = true ∧ problem.topic = .stateShape := by
  unfold shapeProblem? at h
  split at h <;> (try split at h) <;> cases h <;> exact ⟨rfl, rfl⟩

/-- A state is clean if the peripheral can have it. -/
theorem isClean_stateProblems :
    IsClean (descriptor.stateProblems state) ↔ descriptor.Fits state := by
  unfold stateProblems
  split
  · next problem hproblem =>
    rw [isClean_singleton, (isError_of_shapeProblem? hproblem).1]
    constructor
    · nofun
    · intro hfits
      rw [hfits.shape] at hproblem
      cases hproblem
  · next hshape =>
    simp only [isClean_append, isClean_recordProblems, isClean_flatMap_entries,
      isClean_pinProblems, isClean_incompleteProblems, and_true, isClean_interruptProblems]
    constructor
    · rintro ⟨⟨hsettings, hpins⟩, hinterrupts⟩
      exact ⟨hshape, hsettings, hpins, hinterrupts⟩
    · rintro ⟨-, hsettings, hpins, hinterrupts⟩
      exact ⟨⟨hsettings, hpins⟩, hinterrupts⟩

end Descriptor

namespace Device

/-- A check finds no error if the device describes every peripheral of the configuration, and
the peripheral can have its state. -/
theorem isClean_check_iff {device : Device} {configuration : Configuration} :
    IsClean (device.check configuration) ↔
      ∀ id state, configuration.get? id = some state →
        ∃ descriptor, device.descriptor? id = some descriptor ∧ descriptor.Fits state := by
  have hconflicts : IsClean ((device.conflicts configuration).map Conflict.toDiagnostic) := by
    intro diagnostic hmem
    obtain ⟨conflict, -, rfl⟩ := List.mem_map.mp hmem
    rfl
  have hshared : IsClean (device.sharedPins configuration) := by
    refine isClean_flatMap.mpr fun pin _ diagnostic hmem => ?_
    obtain ⟨pair, -, rfl⟩ := List.mem_map.mp hmem
    rfl
  have hentry (id : Peripheral) (state : State) : IsClean (device.entryProblems id state) ↔
      ∃ descriptor, device.descriptor? id = some descriptor ∧ descriptor.Fits state := by
    unfold entryProblems
    cases device.descriptor? id with
    | none => simp [Diagnostic.error, Diagnostic.isError]
    | some descriptor => simp [Descriptor.isClean_stateProblems]
  simp only [check, validate, problems, isClean_append, hconflicts, hshared, true_and, and_true,
    isClean_flatMap_entries, hentry]

end Device

/-! ## Allowed configurations -/

namespace Descriptor

variable {descriptor : Descriptor} {state : State}

/-- A state has the shape of a peripheral with pins, or of one without, as it has to be. Pins
that are watched for changes have to be named. -/
def HasShape (descriptor : Descriptor) : State → Prop
  | .pinBound .. => descriptor.footprint = .pinBound
  | .interruptOnly .. => descriptor.footprint = .pinBound ∧ descriptor.id ≠ .pcint
  | .global .. => descriptor.footprint = .global

/-- A state mentions nothing that its peripheral does not have. -/
structure Allows (descriptor : Descriptor) (state : State) : Prop where
  /-- Its shape is that of the peripheral. -/
  hasShape : descriptor.HasShape state
  /-- Its settings for the peripheral are declared, with values that they may have. -/
  settings : ∀ key value, state.settings.get? key = some value →
    ∃ field, descriptor.field? key = some field ∧ field.kind.admits value = true
  /-- Its pins are declared. -/
  pins : ∀ pin given, state.pinSettings.get? pin = some given → pin ∈ descriptor.declaredPins
  /-- Its settings for pins are declared for pins, with values that they may have. -/
  pinSettings : ∀ pin given, state.pinSettings.get? pin = some given →
    ∀ key value, given.get? key = some value →
      ∃ field, descriptor.field? key = some field ∧ field.scope = .pin ∧
        field.kind.admits value = true
  /-- The interrupts that it names are declared. -/
  interrupts : ∀ entry ∈ state.interruptEntries,
    ∃ interrupt ∈ descriptor.interrupts, interrupt.name = entry.1

/-- No fault is found in the shape of a state exactly if it is the right one. -/
theorem shapeProblem?_eq_none_iff :
    descriptor.shapeProblem? state = none ↔ descriptor.HasShape state := by
  cases hfootprint : descriptor.footprint <;> cases state <;>
    simp [shapeProblem?, HasShape, hfootprint, Peripheral.feedsPinChange]

/-- A setting is accepted for the peripheral if it may have its value. -/
theorem accepts_none_iff {key : String} {value : Value} :
    descriptor.Accepts none key value ↔
      ∃ field, descriptor.field? key = some field ∧ field.kind.admits value = true := by
  simp [Accepts]

/-- A setting is accepted for a pin if it is declared for pins as well. -/
theorem accepts_some_iff {pin : Pin} {key : String} {value : Value} :
    descriptor.Accepts (some pin) key value ↔
      ∃ field, descriptor.field? key = some field ∧ field.scope = .pin ∧
        field.kind.admits value = true := by
  simp [Accepts, and_comm]

/-- An interrupt is found by its name if it is declared. -/
theorem isSome_interrupt?_iff {name : String} :
    (descriptor.interrupt? name).isSome = true ↔
      ∃ interrupt ∈ descriptor.interrupts, interrupt.name = name := by
  simp [interrupt?]

/-- The checks on a state come to nothing but what is allowed. -/
theorem fits_iff_allows : descriptor.Fits state ↔ descriptor.Allows state := by
  constructor
  · intro hfits
    refine ⟨shapeProblem?_eq_none_iff.mp hfits.shape, ?_, ?_, ?_, ?_⟩
    · intro key value hget
      exact accepts_none_iff.mp (hfits.settings key value hget)
    · intro pin given hpin
      exact List.contains_iff_mem.mp (hfits.pins pin given hpin).1
    · intro pin given hpin key value hget
      exact accepts_some_iff.mp ((hfits.pins pin given hpin).2 key value hget)
    · intro entry hentry
      exact isSome_interrupt?_iff.mp (hfits.interrupts entry hentry)
  · intro hallows
    refine ⟨shapeProblem?_eq_none_iff.mpr hallows.hasShape, ?_, ?_, ?_⟩
    · intro key value hget
      exact accepts_none_iff.mpr (hallows.settings key value hget)
    · intro pin given hpin
      refine ⟨List.contains_iff_mem.mpr (hallows.pins pin given hpin), ?_⟩
      intro key value hget
      exact accepts_some_iff.mpr (hallows.pinSettings pin given hpin key value hget)
    · intro entry hentry
      exact isSome_interrupt?_iff.mpr (hallows.interrupts entry hentry)

end Descriptor

namespace Device

/-- A configuration mentions nothing that a device does not have. -/
def Allows (device : Device) (configuration : Configuration) : Prop :=
  ∀ id state, configuration.get? id = some state →
    ∃ descriptor, device.descriptor? id = some descriptor ∧ descriptor.Allows state

/-- A check finds no error exactly in the configurations that a device allows. -/
theorem error_free_iff_allows {device : Device} {configuration : Configuration} :
    (∀ diagnostic ∈ device.check configuration, diagnostic.isError = false) ↔
      device.Allows configuration := by
  simp only [Allows, ← Descriptor.fits_iff_allows]
  exact isClean_check_iff

end Device

end AvrSetup
