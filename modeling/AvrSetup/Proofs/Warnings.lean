import AvrSetup.Proofs.Assembly
import AvrSetup.Proofs.Reach
import Mathlib.Algebra.BigOperators.Group.List.Basic

/-!
# What is passed over, and how often that is said

A pin that a peripheral does not reach is passed over with a warning. The pins of a peripheral are
looked through when its code is made, but those of plain input and of the pin-change interrupts
also, or only, when the pins to watch are gathered. So a pin of plain input is warned about twice
and any other one once. A state without pins is warned about when pins to watch are gathered from
it. Of the pin-change interrupts there is no code then; plain input may still have code of its own
(`Device.parts_passed_over`).
-/

namespace AvrSetup

/-! ## The texts of warnings -/

/-- The name of a pin has three letters. -/
theorem Pin.length_name (pin : Pin) : pin.name.toList.length = 3 := by
  obtain ⟨port, bit⟩ := pin
  revert bit
  cases port <;> decide

/-- The name of a pin begins with a capital letter. -/
theorem Pin.head?_name (pin : Pin) : pin.name.toList.head? = some 'P' := by
  obtain ⟨port, bit⟩ := pin
  revert bit
  cases port <;> decide

namespace Warning

/-- The warning is about a peripheral that the device does not have. -/
def IsAboutAbsence (warning : Warning) : Prop := ∃ id device, warning = .undescribed id device

/-- The part of the text of a warning about a pin that comes before the pin. -/
theorem message_unavailablePin (name : String) (pin : Pin) :
    (unavailablePin name pin).message.toList =
      (name.toList ++ " is not available on ".toList) ++ pin.name.toList ++
        ", skipping".toList := by
  simp only [message, String.toList_append]

theorem message_withoutPins (name : String) :
    (withoutPins name).message.toList =
      (name.toList ++ " is configured without p".toList) ++ "ins".toList ++
        ", skipping".toList := by
  simp only [message, String.toList_append, List.append_assoc]
  rfl

/-- A text tells which warning it is of, unless a peripheral is missing: the name of a device may
read like the end of another warning. -/
theorem eq_of_message_eq {first second : Warning} (h : first.message = second.message) :
    first = second ∨ first.IsAboutAbsence ∨ second.IsAboutAbsence := by
  have htext := congrArg String.toList h
  -- No pin has the name that would make a text about it one about missing pins.
  have hpins (pin : Pin) : pin.name.toList ≠ "ins".toList := by
    intro heq
    have hhead := pin.head?_name
    rw [heq] at hhead
    exact absurd hhead (by decide)
  cases first with
  | undescribed id device => exact .inr (.inl ⟨id, device, rfl⟩)
  | unavailablePin name pin =>
    cases second with
    | undescribed id device => exact .inr (.inr ⟨id, device, rfl⟩)
    | unavailablePin other otherPin =>
      rw [message_unavailablePin, message_unavailablePin] at htext
      obtain ⟨hfront, hpin⟩ := List.append_inj' (List.append_cancel_right htext)
        (pin.length_name.trans otherPin.length_name.symm)
      obtain rfl := Pin.name_injective (String.toList_injective hpin)
      obtain rfl := String.toList_injective (List.append_cancel_right hfront)
      exact .inl rfl
    | withoutPins other =>
      rw [message_unavailablePin, message_withoutPins] at htext
      exact absurd (List.append_inj' (List.append_cancel_right htext) pin.length_name).2
        (hpins pin)
  | withoutPins name =>
    cases second with
    | undescribed id device => exact .inr (.inr ⟨id, device, rfl⟩)
    | unavailablePin other pin =>
      rw [message_unavailablePin, message_withoutPins] at htext
      exact absurd (List.append_inj' (List.append_cancel_right htext) pin.length_name.symm).2.symm
        (hpins pin)
    | withoutPins other =>
      rw [message_withoutPins, message_withoutPins] at htext
      obtain rfl := String.toList_injective
        (List.append_cancel_right (List.append_cancel_right (List.append_cancel_right htext)))
      exact .inl rfl

end Warning

/-! ## Looking through pins -/

/-- The state takes pins, even if it lists none. -/
def State.isPinBound : State → Bool
  | pinBound .. => true
  | interruptOnly .. => false
  | global .. => false

/-- A state of another shape takes no pins. -/
theorem State.pinSettings_eq_empty {state : State} (h : state.isPinBound = false) :
    state.pinSettings = ∅ := by
  cases state with
  | pinBound pins settings interrupts => cases h
  | interruptOnly interrupt settings => rfl
  | global enabled settings interrupts => rfl

namespace Descriptor

variable {descriptor : Descriptor} {configuration : Configuration} {state : State} {name : String}
  {pin : Pin}

/-- A configuration gives the peripheral a pin that it does not reach. -/
def skips (descriptor : Descriptor) (configuration : Configuration) (pin : Pin) : Bool :=
  (configuration.get? descriptor.id).any fun state =>
    state.occupies pin && !descriptor.declaresPin pin

/-- A configuration uses the peripheral with a state that is not about pins. -/
def lacksPins (descriptor : Descriptor) (configuration : Configuration) : Bool :=
  (configuration.get? descriptor.id).any fun state => !state.isPinBound

/-- The warnings about pins of a state that the peripheral does not reach. -/
def pinWarnings (descriptor : Descriptor) (state : State) : List Warning :=
  (descriptor.unavailablePins state).map (.unavailablePin descriptor.name)

/-- A state that is not active has no pins to warn about. -/
theorem warnings_eq (descriptor : Descriptor) (state : State) :
    descriptor.warnings state = descriptor.pinWarnings state := by
  unfold warnings pinWarnings
  split
  · rfl
  · next hinactive =>
    have hnone : state.occupiedPins = [] := List.eq_nil_iff_forall_not_mem.mpr fun pin hpin =>
      hinactive (State.isActive_of_occupiedPins hpin)
    rw [unavailablePins, hnone]
    rfl

/-- Each pin that is out of reach gives one warning. -/
theorem count_pinWarnings (descriptor : Descriptor) (state : State) (name : String) (pin : Pin) :
    (descriptor.pinWarnings state).count (.unavailablePin name pin) =
      if descriptor.name = name ∧ (state.occupies pin && !descriptor.declaresPin pin) = true then 1
      else 0 := by
  have hnodup : (descriptor.pinWarnings state).Nodup := by
    refine ((SortedMap.nodup_keys state.pinSettings).filter _).map ?_
    intro first second heq
    exact (Warning.unavailablePin.inj heq).2
  have hmem : Warning.unavailablePin name pin ∈ descriptor.pinWarnings state ↔
      descriptor.name = name ∧ (state.occupies pin && !descriptor.declaresPin pin) = true := by
    simp only [pinWarnings, unavailablePins, State.occupiedPins, List.mem_map, List.mem_filter,
      Warning.unavailablePin.injEq, SortedMap.mem_keys_iff, ← SortedMap.contains_iff,
      Bool.and_eq_true]
    constructor
    · rintro ⟨_, ⟨hpin, hfar⟩, hname, rfl⟩
      exact ⟨hname, hpin, hfar⟩
    · rintro ⟨hname, hpin, hfar⟩
      exact ⟨pin, ⟨hpin, hfar⟩, hname, rfl⟩
  rw [hnodup.count]
  simp only [hmem]

/-- The warnings about pins that a configuration gives the peripheral out of its reach. -/
def strayWarnings (configuration : Configuration) (descriptor : Descriptor) : List Warning :=
  ((configuration.get? descriptor.id).map descriptor.pinWarnings).getD []

theorem count_strayWarnings (configuration : Configuration) (descriptor : Descriptor)
    (name : String) (pin : Pin) :
    (descriptor.strayWarnings configuration).count (.unavailablePin name pin) =
      if descriptor.name = name ∧ descriptor.skips configuration pin = true then 1 else 0 := by
  unfold strayWarnings skips
  cases configuration.get? descriptor.id with
  | none => simp
  | some state =>
    simp only [Option.map_some, Option.getD_some, Option.any_some]
    exact descriptor.count_pinWarnings state name pin

/-- All of these warnings are about pins. -/
theorem exists_of_mem_strayWarnings {warning : Warning}
    (h : warning ∈ descriptor.strayWarnings configuration) :
    ∃ pin, descriptor.skips configuration pin = true ∧
      warning = .unavailablePin descriptor.name pin := by
  obtain ⟨pin, rfl⟩ : ∃ pin, warning = .unavailablePin descriptor.name pin := by
    unfold strayWarnings at h
    cases hstate : configuration.get? descriptor.id with
    | none => simp [hstate] at h
    | some state =>
      rw [hstate] at h
      obtain ⟨pin, -, rfl⟩ := List.mem_map.mp h
      exact ⟨pin, rfl⟩
  have hcount := List.count_pos_iff.mpr h
  rw [count_strayWarnings] at hcount
  split at hcount
  · next hskips => exact ⟨pin, hskips.2, rfl⟩
  · cases hcount

end Descriptor

namespace PinChange

variable {device : Device} {configuration : Configuration} {descriptor : Descriptor}
  {id : Peripheral}

/-- When pins to watch are gathered, the pins out of reach are warned about, or that there are
none at all. -/
theorem configuredPinWarnings_eq (hdescriptor : device.descriptor? id = some descriptor) :
    configuredPinWarnings device configuration id = descriptor.strayWarnings configuration ++
      if descriptor.lacksPins configuration then [.withoutPins descriptor.name] else [] := by
  have hid : descriptor.id = id := by simpa using List.find?_some hdescriptor
  unfold configuredPinWarnings Descriptor.strayWarnings Descriptor.lacksPins
  rw [hdescriptor, hid]
  cases configuration.get? id with
  | none => rfl
  | some state =>
    cases state with
    | pinBound pins settings interrupts => exact (List.append_nil _).symm
    | interruptOnly interrupt settings => rfl
    | global enabled settings interrupts => rfl

/-- Nothing is said about a peripheral that the device does not have. -/
theorem configuredPinWarnings_of_none (hnone : device.descriptor? id = none) :
    configuredPinWarnings device configuration id = [] := by
  unfold configuredPinWarnings
  rw [hnone]

end PinChange

namespace Device

variable {device : Device} {configuration : Configuration} {descriptor : Descriptor}

/-- The descriptors are run through once. Those of other peripherals are looked through one by
one, and pins to watch are gathered in between if the pin-change interrupts are among them. -/
theorem stageWarnings_perm (device : Device) (configuration : Configuration)
    {descriptors : List Descriptor} (hnodup : (descriptors.map Descriptor.id).Nodup) :
    ((descriptors.filterMap fun descriptor => descriptor.stage? configuration).flatMap
        (device.stageWarnings configuration)).Perm
      ((if descriptors.any fun descriptor => descriptor.id.feedsPinChange then
          PinChange.warnings device configuration else []) ++
        (descriptors.filter fun descriptor => !descriptor.id.feedsPinChange).flatMap
          (Descriptor.strayWarnings configuration)) := by
  induction descriptors with
  | nil => rfl
  | cons head rest ih =>
    obtain ⟨hhead, hrest⟩ := List.nodup_cons.mp hnodup
    by_cases hfeeds : head.id.feedsPinChange = true
    · have hnone : (rest.any fun descriptor => descriptor.id.feedsPinChange) = false := by
        rw [List.any_eq_false]
        intro other hother hsame
        apply hhead
        rw [beq_iff_eq.mp hfeeds, ← beq_iff_eq.mp hsame]
        exact List.mem_map_of_mem hother
      have hih := (ih hrest).append_left (PinChange.warnings device configuration)
      rw [hnone] at hih
      have hstage : head.stage? configuration = some .pinChange := if_pos hfeeds
      simpa [hstage, hfeeds, stageWarnings] using hih
    · have hstage : (head.stage? configuration).toList.flatMap
          (device.stageWarnings configuration) = head.strayWarnings configuration := by
        unfold Descriptor.stage? Descriptor.strayWarnings
        rw [if_neg hfeeds]
        cases configuration.get? head.id with
        | none => rfl
        | some state =>
          by_cases hactive : state.isActive = true
          · simp [Option.filter_some, hactive, stageWarnings, Descriptor.warnings_eq]
          · have hwarnings := head.warnings_eq state
            rw [Descriptor.warnings, if_neg hactive] at hwarnings
            simp [Option.filter_some, hactive, ← hwarnings]
      have hleft : ((head :: rest).filterMap fun descriptor =>
            descriptor.stage? configuration).flatMap (device.stageWarnings configuration) =
          head.strayWarnings configuration ++ (rest.filterMap fun descriptor =>
            descriptor.stage? configuration).flatMap (device.stageWarnings configuration) := by
        rw [← hstage, List.filterMap_cons]
        cases head.stage? configuration <;> simp
      rw [hleft, List.any_cons, List.filter_cons, Bool.eq_false_of_not_eq_true hfeeds]
      simp only [Bool.false_or, Bool.not_false, if_true, List.flatMap_cons]
      refine ((ih hrest).append_left _).trans ?_
      rw [← List.append_assoc, ← List.append_assoc]
      exact List.perm_append_comm.append_right _

/-- All warnings, in another order: pins to watch are gathered just once. -/
theorem warnings_perm (hcoherent : device.IsCoherent) (configuration : Configuration) :
    (device.warnings configuration).Perm
      (PinChange.warnings device configuration ++
        (device.peripherals.filter fun descriptor => !descriptor.id.feedsPinChange).flatMap
          (Descriptor.strayWarnings configuration) ++
        (device.undescribed configuration).map fun id => .undescribed id device.name) := by
  have hperm := stageWarnings_perm device configuration hcoherent.nodup_ids
  unfold warnings stages
  refine List.Perm.append_right _ ?_
  rw [List.flatMap_append]
  split
  · next hany =>
    rw [hany] at hperm
    simpa using hperm
  · next hnone =>
    rw [Bool.eq_false_of_not_eq_true hnone] at hperm
    simpa [stageWarnings] using (hperm.append_right _).trans List.perm_append_comm

/-! ## Counting -/

/-- A described peripheral is found, and no other one has its name. -/
theorem descriptor?_of_name (hcoherent : device.IsCoherent)
    (hnames : (device.peripherals.map Descriptor.name).Nodup)
    (hdescriptor : descriptor ∈ device.peripherals) {id : Peripheral} {other : Descriptor}
    (hother : device.descriptor? id = some other) :
    other.name = descriptor.name ↔ descriptor.id = id := by
  have hmem : other ∈ device.peripherals := List.mem_of_find?_eq_some hother
  have hid : other.id = id := by simpa using List.find?_some hother
  constructor
  · intro hname
    rw [← List.inj_on_of_nodup_map hnames hmem hdescriptor hname, hid]
  · intro hsame
    rw [List.inj_on_of_nodup_map hcoherent.nodup_ids hmem hdescriptor (hid.trans hsame.symm)]

section

variable (hcoherent : device.IsCoherent) (hnames : (device.peripherals.map Descriptor.name).Nodup)
  (hdescriptor : descriptor ∈ device.peripherals) (configuration : Configuration)

include hcoherent hnames hdescriptor

/-- Where pins to watch are gathered from a peripheral, a pin out of its reach gives one
warning. -/
theorem count_configuredPinWarnings (id : Peripheral) (pin : Pin) :
    (PinChange.configuredPinWarnings device configuration id).count
        (.unavailablePin descriptor.name pin) =
      if descriptor.id = id ∧ descriptor.skips configuration pin = true then 1 else 0 := by
  cases hother : device.descriptor? id with
  | none =>
    have hne : descriptor.id ≠ id := by
      rintro rfl
      rw [descriptor?, find?_key_eq_some hcoherent.nodup_ids hdescriptor] at hother
      cases hother
    rw [PinChange.configuredPinWarnings_of_none hother, if_neg (fun h => hne h.1)]
    rfl
  | some other =>
    have hname := descriptor?_of_name hcoherent hnames hdescriptor hother
    have hlacking : (if other.lacksPins configuration then [Warning.withoutPins other.name]
        else []).count (.unavailablePin descriptor.name pin) = 0 := by
      split <;> simp
    rw [PinChange.configuredPinWarnings_eq hother, List.count_append, hlacking, Nat.add_zero,
      Descriptor.count_strayWarnings]
    by_cases hsame : descriptor.id = id
    · have hfound := find?_key_eq_some hcoherent.nodup_ids hdescriptor
      rw [hsame] at hfound
      obtain rfl := Option.some.inj (hother.symm.trans hfound)
      simp [hsame]
    · rw [if_neg (fun h => hsame (hname.mp h.1)), if_neg (fun h => hsame h.1)]

/-- Where peripherals other than the pin-change interrupts are looked through one by one, a pin
out of reach gives one warning. -/
theorem count_flatMap_strayWarnings (pin : Pin) :
    ((device.peripherals.filter fun descriptor => !descriptor.id.feedsPinChange).flatMap
        (Descriptor.strayWarnings configuration)).count (.unavailablePin descriptor.name pin) =
      if descriptor.id ≠ .pcint ∧ descriptor.skips configuration pin = true then 1 else 0 := by
  have hother : ∀ other ≠ descriptor,
      other ∈ (device.peripherals.filter fun descriptor => !descriptor.id.feedsPinChange) →
        (List.count (.unavailablePin descriptor.name pin) ∘
          Descriptor.strayWarnings configuration) other = 0 := by
    intro other hne hmem
    have hname : other.name ≠ descriptor.name := fun hname =>
      hne (List.inj_on_of_nodup_map hnames (List.mem_filter.mp hmem).1 hdescriptor hname)
    rw [Function.comp_apply, Descriptor.count_strayWarnings, if_neg (fun h => hname h.1)]
  have hnodup : (device.peripherals.filter fun descriptor =>
      !descriptor.id.feedsPinChange).Nodup := (hcoherent.nodup_ids.of_map _).filter _
  rw [List.count_flatMap, List.sum_map_eq_nsmul_single descriptor _ hother, hnodup.count,
    Function.comp_apply, Descriptor.count_strayWarnings]
  by_cases hid : descriptor.id = .pcint
  · simp [Peripheral.feedsPinChange, hid]
  · simp [Peripheral.feedsPinChange, hid, hdescriptor]

/-- A pin out of reach gives one warning each time that the pins of its peripheral are looked
through, which for plain input is twice. -/
theorem count_warnings (pin : Pin) :
    (device.warnings configuration).count (.unavailablePin descriptor.name pin) =
      if descriptor.skips configuration pin = true then
        if descriptor.id = .gpio then 2 else 1
      else 0 := by
  have habsent : ((device.undescribed configuration).map fun id =>
      Warning.undescribed id device.name).count (.unavailablePin descriptor.name pin) = 0 := by
    rw [List.count_eq_zero]
    simp
  have hcount := count_configuredPinWarnings hcoherent hnames hdescriptor configuration
  rw [(warnings_perm hcoherent configuration).count_eq, List.count_append, List.count_append,
    habsent, count_flatMap_strayWarnings hcoherent hnames hdescriptor, PinChange.warnings,
    List.count_append, hcount, hcount]
  by_cases hskips : descriptor.skips configuration pin = true
  · cases hid : descriptor.id <;> simp [hskips]
  · simp [hskips]

end

/-! ## Which warnings there are -/

/-- Where pins to watch are gathered from a peripheral, it is described. -/
theorem mem_configuredPinWarnings {id : Peripheral} {warning : Warning}
    (h : warning ∈ PinChange.configuredPinWarnings device configuration id) :
    ∃ descriptor ∈ device.peripherals, descriptor.id = id ∧
      (warning ∈ descriptor.strayWarnings configuration ∨
        descriptor.lacksPins configuration = true ∧ warning = .withoutPins descriptor.name) := by
  cases hdescriptor : device.descriptor? id with
  | none =>
    rw [PinChange.configuredPinWarnings_of_none hdescriptor] at h
    cases h
  | some descriptor =>
    refine ⟨descriptor, List.mem_of_find?_eq_some hdescriptor,
      by simpa using List.find?_some hdescriptor, ?_⟩
    rw [PinChange.configuredPinWarnings_eq hdescriptor] at h
    refine (List.mem_append.mp h).imp_right fun hlast => ?_
    split at hlast
    · next hlacks => exact ⟨hlacks, List.mem_singleton.mp hlast⟩
    · cases hlast

/-- A warning about a pin is about one that a described peripheral is given out of its reach. -/
theorem exists_skips_of_mem_warnings (hcoherent : device.IsCoherent) {name : String} {pin : Pin}
    (h : .unavailablePin name pin ∈ device.warnings configuration) :
    ∃ descriptor ∈ device.peripherals, descriptor.name = name ∧
      descriptor.skips configuration pin = true := by
  have hstray {descriptor : Descriptor} (hdescriptor : descriptor ∈ device.peripherals)
      (hmem : .unavailablePin name pin ∈ descriptor.strayWarnings configuration) :
      ∃ descriptor ∈ device.peripherals, descriptor.name = name ∧
        descriptor.skips configuration pin = true := by
    obtain ⟨_, hskips, heq⟩ := Descriptor.exists_of_mem_strayWarnings hmem
    cases heq
    exact ⟨descriptor, hdescriptor, rfl, hskips⟩
  have hgathered {id : Peripheral}
      (hmem : .unavailablePin name pin ∈
        PinChange.configuredPinWarnings device configuration id) :
      ∃ descriptor ∈ device.peripherals, descriptor.name = name ∧
        descriptor.skips configuration pin = true := by
    obtain ⟨descriptor, hdescriptor, -, hmem | ⟨-, heq⟩⟩ := mem_configuredPinWarnings hmem
    · exact hstray hdescriptor hmem
    · cases heq
  rcases List.mem_append.mp ((warnings_perm hcoherent configuration).mem_iff.mp h) with h | h
  · rcases List.mem_append.mp h with h | h
    · exact (List.mem_append.mp h).elim hgathered hgathered
    · obtain ⟨descriptor, hdescriptor, hmem⟩ := List.mem_flatMap.mp h
      exact hstray (List.mem_filter.mp hdescriptor).1 hmem
  · obtain ⟨_, -, heq⟩ := List.mem_map.mp h
    cases heq

/-- A warning about missing pins is about plain input or about the pin-change interrupts. -/
theorem exists_lacksPins_of_mem_warnings (hcoherent : device.IsCoherent) {name : String}
    (h : .withoutPins name ∈ device.warnings configuration) :
    ∃ descriptor ∈ device.peripherals, descriptor.name = name ∧
      (descriptor.id = .gpio ∨ descriptor.id = .pcint) ∧
      descriptor.lacksPins configuration = true := by
  have hgathered {id : Peripheral} (hid : id = .gpio ∨ id = .pcint)
      (hmem : .withoutPins name ∈ PinChange.configuredPinWarnings device configuration id) :
      ∃ descriptor ∈ device.peripherals, descriptor.name = name ∧
        (descriptor.id = .gpio ∨ descriptor.id = .pcint) ∧
        descriptor.lacksPins configuration = true := by
    obtain ⟨descriptor, hdescriptor, rfl, hmem | ⟨hlacks, heq⟩⟩ := mem_configuredPinWarnings hmem
    · obtain ⟨_, -, heq⟩ := Descriptor.exists_of_mem_strayWarnings hmem
      cases heq
    · cases heq
      exact ⟨descriptor, hdescriptor, rfl, hid, hlacks⟩
  rcases List.mem_append.mp ((warnings_perm hcoherent configuration).mem_iff.mp h) with h | h
  · rcases List.mem_append.mp h with h | h
    · exact (List.mem_append.mp h).elim (hgathered (.inr rfl)) (hgathered (.inl rfl))
    · obtain ⟨_, -, hmem⟩ := List.mem_flatMap.mp h
      obtain ⟨_, -, heq⟩ := Descriptor.exists_of_mem_strayWarnings hmem
      cases heq
  · obtain ⟨_, -, heq⟩ := List.mem_map.mp h
    cases heq

end Device

/-! ## Code without a peripheral -/

/-- Expansions that are empty may be left out when all are put together. -/
theorem Assembly.foldlM_add_filter {α : Type} (id : Peripheral) {pieces : List α}
    {f : α → List Expansion} {p : α → Bool}
    (h : ∀ piece ∈ pieces, p piece = false → f piece = [.empty id]) (start : Assembly) :
    ((pieces.filter p).flatMap f).foldlM add start = (pieces.flatMap f).foldlM add start := by
  induction pieces generalizing start with
  | nil => rfl
  | cons head rest ih =>
    obtain ⟨hhead, hrest⟩ := List.forall_mem_cons.mp h
    by_cases hp : p head = true
    · rw [List.filter_cons_of_pos hp, List.flatMap_cons, List.flatMap_cons, List.foldlM_append,
        List.foldlM_append]
      exact congrArg _ (funext fun assembly => ih hrest assembly)
    · rw [List.filter_cons_of_neg hp, List.flatMap_cons, hhead (Bool.eq_false_of_not_eq_true hp),
        ih hrest]
      rfl

/-- The contribution is that of a peripheral by itself. -/
def Stage.isOf (id : Peripheral) : Stage → Bool
  | peripheral descriptor _ => descriptor.id == id
  | pinChange => false

namespace Device

variable {device : Device} {configuration : Configuration} {id : Peripheral}

/-- Without the state of a peripheral, the contribution of the peripheral by itself is left
out. -/
theorem stages_erase (device : Device) (configuration : Configuration) (id : Peripheral) :
    device.stages (configuration.erase id) =
      (device.stages configuration).filter fun stage => !stage.isOf id := by
  have hstage (descriptor : Descriptor) : descriptor.stage? (configuration.erase id) =
      (descriptor.stage? configuration).filter fun stage => !stage.isOf id := by
    have hfilter (state : Option State) :
        (state.map (Stage.peripheral descriptor)).filter (fun stage => !stage.isOf id) =
          if descriptor.id = id then none else state.map (Stage.peripheral descriptor) := by
      cases state <;> simp [Option.filter_some, Stage.isOf]
    unfold Descriptor.stage?
    split
    · rfl
    · rw [hfilter, SortedMap.get?_erase]
      split <;> rfl
  have hlast : (if device.peripherals.any fun descriptor => descriptor.id.feedsPinChange then []
        else [Stage.pinChange]).filter (fun stage => !stage.isOf id) =
      if device.peripherals.any fun descriptor => descriptor.id.feedsPinChange then []
        else [Stage.pinChange] := by
    split <;> rfl
  rw [stages, stages, List.filter_append, List.filter_filterMap, hlast]
  simp only [hstage]

/-- Without a state that is not about pins, the same pins are watched. -/
theorem expansion?_erase
    (hlacks : ((configuration.get? id).any fun state => !state.isPinBound) = true) :
    PinChange.expansion? device (configuration.erase id) =
      PinChange.expansion? device configuration := by
  have hpins (other : Peripheral) :
      PinChange.configuredPins device (configuration.erase id) other =
        PinChange.configuredPins device configuration other := by
    unfold PinChange.configuredPins
    rw [SortedMap.get?_erase]
    by_cases hother : other = id
    · obtain ⟨state, hstate, hshape⟩ := (Option.any_eq_true _ _).mp hlacks
      have hnone : state.pinSettings = ∅ := State.pinSettings_eq_empty (by simpa using hshape)
      rw [if_pos hother, hother, hstate]
      cases device.descriptor? id with
      | none => rfl
      | some descriptor =>
        simp only [hnone]
        rfl
    · rw [if_neg hother]
  have hrequests : PinChange.requests device (configuration.erase id) =
      PinChange.requests device configuration := by
    unfold PinChange.requests PinChange.explicitRequests PinChange.flaggedRequests
    rw [hpins, hpins]
  rw [PinChange.expansion?, PinChange.expansion?, hrequests]

/-- If a peripheral has a state that is not about pins, and nothing comes out of it, there is the
same code without it. -/
theorem generate_erase {clock : Option Nat} {artifact : Artifact}
    (hlacks : ((configuration.get? id).any fun state => !state.isPinBound) = true)
    (hempty : ∀ stage ∈ device.stages configuration, stage.isOf id = true →
      device.stageExpansions configuration (clock <|> device.clock) stage = [.empty id])
    (hgenerate : device.generate configuration clock = .ok artifact) :
    device.generate (configuration.erase id) clock = .ok artifact := by
  obtain ⟨hsupplied, hassemble⟩ := generate_eq_ok_iff_assemble.mp hgenerate
  have hsame : device.stageExpansions (configuration.erase id) (clock <|> device.clock) =
      device.stageExpansions configuration (clock <|> device.clock) := by
    funext stage
    cases stage with
    | peripheral descriptor state => rfl
    | pinChange => rw [stageExpansions, stageExpansions, expansion?_erase hlacks]
  rw [generate_eq_ok_iff_assemble, stages_erase, hsame]
  refine ⟨fun stage hstage => hsupplied stage (List.mem_filter.mp hstage).1, ?_⟩
  rw [assemble, Assembly.foldlM_add_filter id, ← assemble, hassemble]
  intro stage hstage hof
  exact hempty stage hstage (by simpa using hof)

/-- If a peripheral has a state that is not about pins, there is the same code without it, or it is
not the pin-change interrupts and has code of its own. -/
theorem generate_erase_or_expand {clock : Option Nat} {artifact : Artifact}
    {descriptor : Descriptor} (hcoherent : device.IsCoherent)
    (hdescriptor : descriptor ∈ device.peripherals)
    (hlacks : descriptor.lacksPins configuration = true)
    (hgenerate : device.generate configuration clock = .ok artifact) :
    device.generate (configuration.erase descriptor.id) clock = .ok artifact ∨
      descriptor.id ≠ .pcint ∧ ∃ state expansion, configuration.get? descriptor.id = some state ∧
        state.isActive = true ∧ descriptor.expand state (clock <|> device.clock) = .ok expansion ∧
        expansion ≠ .empty descriptor.id := by
  by_cases hempty : ∀ stage ∈ device.stages configuration, stage.isOf descriptor.id = true →
      device.stageExpansions configuration (clock <|> device.clock) stage =
        [.empty descriptor.id]
  · exact .inl (generate_erase hlacks hempty hgenerate)
  · right
    simp only [not_forall] at hempty
    obtain ⟨stage, hstage, hof, hne⟩ := hempty
    have hsupplied := (generate_eq_ok_iff_assemble.mp hgenerate).1 stage hstage
    rcases mem_stages_iff.mp hstage with rfl | ⟨other, hother, state, hpcint, hstate, hactive, rfl⟩
    · cases hof
    · obtain rfl := List.inj_on_of_nodup_map hcoherent.nodup_ids hother hdescriptor
        (beq_iff_eq.mp hof)
      refine ⟨hpcint, state, _, hstate, hactive,
        (Descriptor.expand_eq_ok_iff hactive).mpr ⟨hsupplied, rfl⟩, fun heq => hne ?_⟩
      rw [stageExpansions, heq]

/-- What is said about the parts of a configuration that are passed over. Take a device that is
accepted, with peripherals of different names, and a configuration that there is code for. A pin
that a peripheral is given out of its reach is warned about once, or twice if the peripheral is
plain input, and no other pin is warned about. A warning about missing pins is about a described
peripheral whose state has none. There is the same code without it, unless it is plain input that
is active and has code of its own. The texts tell the warnings apart, unless they are about
peripherals that the device does not have. -/
theorem parts_passed_over {text : String} {clock : Option Nat} {artifact : Artifact}
    (hparse : parse text = .ok device)
    (hnames : (device.peripherals.map Descriptor.name).Nodup)
    (hgenerate : device.generate configuration clock = .ok artifact) :
    (∀ descriptor ∈ device.peripherals, ∀ pin,
      (device.warnings configuration).count (.unavailablePin descriptor.name pin) =
        if descriptor.skips configuration pin = true then
          if descriptor.id = .gpio then 2 else 1
        else 0) ∧
    (∀ name pin, .unavailablePin name pin ∈ device.warnings configuration →
      ∃ descriptor ∈ device.peripherals, descriptor.name = name ∧
        descriptor.skips configuration pin = true) ∧
    (∀ name, .withoutPins name ∈ device.warnings configuration →
      ∃ descriptor ∈ device.peripherals, descriptor.name = name ∧
        descriptor.lacksPins configuration = true ∧
        (device.generate (configuration.erase descriptor.id) clock = .ok artifact ∨
          descriptor.id = .gpio ∧ ∃ state expansion, configuration.get? .gpio = some state ∧
            state.isActive = true ∧
            descriptor.expand state (clock <|> device.clock) = .ok expansion ∧
            expansion ≠ .empty .gpio)) ∧
    ∀ first ∈ device.warnings configuration, ∀ second ∈ device.warnings configuration,
      first.message = second.message →
        first = second ∨ first.IsAboutAbsence ∨ second.IsAboutAbsence := by
  have hcoherent := isCoherent_of_parse hparse
  refine ⟨fun descriptor hdescriptor pin => ?_, fun name pin hmem => ?_, fun name hmem => ?_,
    fun first _ second _ => Warning.eq_of_message_eq⟩
  · exact count_warnings hcoherent hnames hdescriptor configuration pin
  · exact exists_skips_of_mem_warnings hcoherent hmem
  · obtain ⟨descriptor, hdescriptor, hname, hid, hlacks⟩ :=
      exists_lacksPins_of_mem_warnings hcoherent hmem
    refine ⟨descriptor, hdescriptor, hname, hlacks, ?_⟩
    rcases generate_erase_or_expand hcoherent hdescriptor hlacks hgenerate with
      hsame | ⟨hpcint, hown⟩
    · exact .inl hsame
    · have hgpio : descriptor.id = .gpio := hid.resolve_right hpcint
      rw [hgpio] at hown
      exact .inr ⟨hgpio, hown⟩

/-! ## Plain input on a wrong pin -/

/-- A description of plain input with a line of code, of external interrupts and of pin-change
interrupts, which all reach one pin. -/
def onePinText : String :=
  "<device name='m'><peripheral id='gpio' kind='pin-bound'><signal name='S' pins='PB0'/>" ++
  "<templates scope='peripheral' key='init'><line>A;</line></templates></peripheral>" ++
  "<peripheral id='extint' kind='pin-bound'><signal name='S' pins='PB0'/></peripheral>" ++
  "<peripheral id='pcint' kind='pin-bound'><signal name='S' pins='PB0'/></peripheral></device>"

/-- A peripheral that reaches one pin. -/
def onePinDescriptor (id : Peripheral) (templates : List TemplateSet) : Descriptor :=
  { id, name := id.name, footprint := .pinBound, needsAllPins := false
    signals := [⟨"S", Atmega328p.portB [0]⟩], fields := [], mode := none, tables := ∅
    signature := .plain (id.name ++ "_init"), interrupts := [], templates }

/-- The device of these peripherals. -/
def onePinDevice : Device where
  name := "m"
  clock := none
  peripherals :=
    [onePinDescriptor .gpio [⟨.peripheral, "init", none, none, [], [.ofSegments [.literal "A;"]]⟩],
      onePinDescriptor .extint [], onePinDescriptor .pcint []]
  rules := []

/-- The description is accepted. -/
theorem parse_onePinText : parse onePinText = .ok onePinDevice := by decide +kernel

/-- A state that takes a pin out of reach. -/
def wrongPin : State := .pinBound (.ofList [(Atmega328p.pinAt .b 1, ∅)]) ∅ ∅

/-- Plain input and external interrupts on a pin out of reach, and pin-change interrupts without
pins. -/
def wrongPins : Configuration :=
  .ofList [(.gpio, wrongPin), (.extint, wrongPin), (.pcint, .interruptOnly "T" ∅)]

/-- The pin is warned about twice for plain input and once for external interrupts, and without the
pin-change interrupts there is the same code. -/
theorem parts_passed_over_wrongPins :
    ∃ artifact, parse onePinText = .ok onePinDevice ∧
      (onePinDevice.peripherals.map Descriptor.name).Nodup ∧
      onePinDevice.generate wrongPins none = .ok artifact ∧
      (onePinDevice.warnings wrongPins).count (.unavailablePin "gpio" (Atmega328p.pinAt .b 1)) = 2 ∧
      (onePinDevice.warnings wrongPins).count (.unavailablePin "extint" (Atmega328p.pinAt .b 1)) =
        1 ∧
      .withoutPins "pcint" ∈ onePinDevice.warnings wrongPins ∧
      onePinDevice.generate (wrongPins.erase .pcint) none = .ok artifact := by
  have hnames : (onePinDevice.peripherals.map Descriptor.name).Nodup := by decide
  obtain ⟨artifact, hgenerate⟩ :
      ∃ artifact, onePinDevice.generate wrongPins none = .ok artifact := ⟨_, by rfl⟩
  obtain ⟨hcount, -, hlacking, -⟩ := parts_passed_over parse_onePinText hnames hgenerate
  have hmem : .withoutPins "pcint" ∈ onePinDevice.warnings wrongPins := by decide +kernel
  have hpcint : ∀ descriptor ∈ onePinDevice.peripherals, descriptor.name = "pcint" →
      descriptor.id = .pcint := by decide
  refine ⟨artifact, parse_onePinText, hnames, hgenerate,
    (hcount (onePinDescriptor .gpio _) List.mem_cons_self _).trans (by decide +kernel),
    (hcount (onePinDescriptor .extint []) (by simp [onePinDevice]) _).trans (by decide +kernel),
    hmem, ?_⟩
  obtain ⟨descriptor, hdescriptor, hname, -, hsame | ⟨hgpio, -⟩⟩ := hlacking _ hmem
  · rwa [hpcint descriptor hdescriptor hname] at hsame
  · rw [hpcint descriptor hdescriptor hname] at hgpio
    cases hgpio

/-- Plain input that is only asked for an interrupt. -/
def plainInterrupt : Configuration := .ofList [(.gpio, .interruptOnly "T" ∅)]

/-- One pin of plain input may be warned about twice. And plain input may be warned about as
skipped although its line of code is there, as it is not if plain input is left out. -/
theorem wrong_pin_warned_twice :
    parse onePinText = .ok onePinDevice ∧
      (onePinDevice.peripherals.map Descriptor.name).Nodup ∧
      (onePinDevice.generate (.ofList [(.gpio, wrongPin)]) none).isOk = true ∧
      (onePinDevice.warnings (.ofList [(.gpio, wrongPin)])).map Warning.message =
        ["gpio is not available on PB1, skipping", "gpio is not available on PB1, skipping"] ∧
      (onePinDevice.warnings plainInterrupt).map Warning.message =
        ["gpio is configured without pins, skipping"] ∧
      (onePinDevice.generate plainInterrupt none).map
        (fun artifact => artifact.initRoutines.map Routine.lines) = .ok [["A;"]] ∧
      (onePinDevice.generate (plainInterrupt.erase .gpio) none).map
        (fun artifact => artifact.initRoutines.map Routine.lines) = .ok [] :=
  ⟨parse_onePinText, by decide, by decide +kernel, by decide +kernel, by decide +kernel,
    by decide +kernel, by decide +kernel⟩

end Device

end AvrSetup
