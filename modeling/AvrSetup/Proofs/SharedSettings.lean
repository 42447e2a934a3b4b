import AvrSetup.Atmega328p.Device
import AvrSetup.Code.PinChange
import AvrSetup.Code.Rendering
import AvrSetup.Proofs.Description
import AvrSetup.Proofs.Resolution
import Mathlib.Tactic.ByContra

/-!
# Settings that pins share

The pins of a peripheral have the settings of the peripheral as a whole beside their own. Code
for a pin takes those that are in force for the peripheral, so a setting that does not matter
there is left out, and has its default again for the pin (`Descriptor.Withholds`). Pin-change
interrupts take the settings as they are given. This file shows when the two ways lead to the
same (`Descriptor.pinSettings_peripheralSettings`). They always do if the peripheral as a whole
tells by itself what matters for it, and no condition reads a setting that may not
(`Descriptor.IsLayered`).
-/

namespace AvrSetup

namespace Settings

variable {fields : List Field} {scope : Scope} {given : Settings} {key : String}

/-- A setting that some fields declare does not matter. -/
def Hides (fields : List Field) (scope : Scope) (given : Settings) (key : String) : Prop :=
  ∃ field ∈ fieldsIn fields scope, field.key = key ∧
    field.isVisible (filled fields scope given) = false

instance (fields : List Field) (scope : Scope) (given : Settings) (key : String) :
    Decidable (Hides fields scope given key) :=
  inferInstanceAs (Decidable (∃ _ ∈ _, _))

/-- A setting that does not matter is not in force. -/
theorem get?_effective_of_hides (h : Hides fields scope given key) :
    (effective fields scope given).get? key = none :=
  (get?_effective fields scope given key).trans (if_pos h)

/-- A setting that matters has the filled in value. -/
theorem get?_effective_of_not_hides (h : ¬Hides fields scope given key) :
    (effective fields scope given).get? key = (filled fields scope given).get? key :=
  (get?_effective fields scope given key).trans (if_neg h)

end Settings

namespace Descriptor

variable {descriptor : Descriptor} {given own shared : Settings} {key : String}

/-! ## What pins inherit -/

/-- The value of a setting for a pin that does not set it, with some settings for the peripheral
as a whole: the one among these, or else the default. -/
def inherited (descriptor : Descriptor) (shared : Settings) (key : String) : Option Value :=
  (shared.get? key).or ((descriptor.field? key).map Field.default)

/-- What pins inherit under the settings in force is not what they inherit under those that are
given. -/
def Withholds (descriptor : Descriptor) (given : Settings) (key : String) : Prop :=
  descriptor.inherited (given.effective descriptor.fields .peripheral) key ≠
    descriptor.inherited given key

instance (descriptor : Descriptor) (given : Settings) (key : String) :
    Decidable (descriptor.Withholds given key) :=
  inferInstanceAs (Decidable (_ ≠ _))

/-- A setting that is given is withheld if it does not matter for the peripheral as a whole and
is not its default. -/
theorem withholds_iff_of_given {value : Value} (h : given.get? key = some value) :
    descriptor.Withholds given key ↔ Settings.Hides descriptor.fields .peripheral given key ∧
      (descriptor.field? key).map Field.default ≠ some value := by
  rw [Withholds, inherited, inherited, h, Option.some_or]
  by_cases hhidden : Settings.Hides descriptor.fields .peripheral given key
  · rw [Settings.get?_effective_of_hides hhidden, Option.none_or]
    exact (and_iff_right hhidden).symm
  · rw [Settings.get?_effective_of_not_hides hhidden, Settings.filled,
      Settings.get?_withDefaults, h, Option.some_or, Option.some_or]
    exact ⟨fun hne => absurd rfl hne, fun hboth => absurd hboth.1 hhidden⟩

/-- Only settings of the peripheral as a whole are withheld. -/
theorem exists_field_of_withholds (h : descriptor.Withholds given key) :
    ∃ field ∈ Settings.fieldsIn descriptor.fields .peripheral, field.key = key := by
  by_contra hnone
  have hmatters : ¬Settings.Hides descriptor.fields .peripheral given key := by
    rintro ⟨field, hfield, hkey, -⟩
    exact hnone ⟨field, hfield, hkey⟩
  have hfind : (Settings.fieldsIn descriptor.fields .peripheral).find?
      (fun field => field.key == key) = none := by
    rw [List.find?_eq_none]
    exact fun field hfield hkey => hnone ⟨field, hfield, beq_iff_eq.mp hkey⟩
  refine h ?_
  rw [inherited, Settings.get?_effective_of_not_hides hmatters, Settings.filled,
    Settings.get?_withDefaults, hfind, Option.map_none, Option.or_none]
  rfl

/-! ## The settings of a pin -/

/-- A pin has its own value of a setting, or else the one that it inherits. -/
theorem get?_filled_pin : (Settings.filled descriptor.fields .pin (shared.overlay own)).get? key =
    (own.get? key).or (descriptor.inherited shared key) := by
  have hfields : Settings.fieldsIn descriptor.fields .pin = descriptor.fields :=
    List.filter_eq_self.mpr fun _ _ => rfl
  rw [Settings.filled, hfields, Settings.get?_withDefaults, SortedMap.get?_overlay, Option.or_assoc]
  rfl

/-- A setting that is in force for a pin has the pin's own value, or else the inherited one. -/
theorem get?_pinSettings (h : (descriptor.pinSettings shared own).contains key = true) :
    (descriptor.pinSettings shared own).get? key =
      (own.get? key).or (descriptor.inherited shared key) := by
  obtain ⟨value, hvalue⟩ := Option.isSome_iff_exists.mp h
  rw [← get?_filled_pin, hvalue]
  exact (Settings.isWithin_filled _ _ _ _ _ hvalue).symm

/-- A pin sets nothing that belongs to the peripheral as a whole. -/
def IsOwn (descriptor : Descriptor) (own : Settings) : Prop :=
  ∀ field ∈ Settings.fieldsIn descriptor.fields .peripheral, own.get? field.key = none

instance (descriptor : Descriptor) (own : Settings) : Decidable (descriptor.IsOwn own) :=
  inferInstanceAs (Decidable (∀ _ ∈ _, _))

/-- The settings of a pin do not depend on whether those for the peripheral as a whole are given
or in force, exactly if the same ones matter for the pin and none of them is withheld. -/
theorem pinSettings_eq_iff (hown : descriptor.IsOwn own) :
    descriptor.pinSettings (given.effective descriptor.fields .peripheral) own =
        descriptor.pinSettings given own ↔
      ∀ key, (descriptor.pinSettings (given.effective descriptor.fields .peripheral) own).contains
          key = (descriptor.pinSettings given own).contains key ∧
        ((descriptor.pinSettings given own).contains key = true →
          ¬descriptor.Withholds given key) := by
  constructor
  · intro heq key
    refine ⟨by rw [heq], fun hcontains hwithholds => ?_⟩
    obtain ⟨field, hfield, rfl⟩ := exists_field_of_withholds hwithholds
    have hvalue := get?_pinSettings hcontains
    rw [← heq, get?_pinSettings (heq ▸ hcontains), hown field hfield, Option.none_or,
      Option.none_or] at hvalue
    exact hwithholds hvalue
  · intro h
    refine SortedMap.ext_get? fun key => ?_
    obtain ⟨hsame, hinherits⟩ := h key
    by_cases hcontains : (descriptor.pinSettings given own).contains key = true
    · rw [get?_pinSettings (hsame.trans hcontains), get?_pinSettings hcontains,
        not_not.mp (hinherits hcontains)]
    · have hnone := Option.not_isSome_iff_eq_none.mp hcontains
      rw [hnone, ← Option.not_isSome_iff_eq_none]
      rwa [← hsame] at hcontains

/-! ## Descriptors that withhold nothing that matters for a pin -/

/-- Whether a setting of the peripheral as a whole matters is told from such settings alone, and
no condition reads one that may not matter. -/
structure IsLayered (descriptor : Descriptor) : Prop where
  /-- A field of the peripheral as a whole is the one that its key means. -/
  field?_eq : ∀ field ∈ Settings.fieldsIn descriptor.fields .peripheral,
    descriptor.field? field.key = some field
  /-- Its condition reads only settings of the peripheral as a whole. -/
  reads_shared : ∀ field ∈ Settings.fieldsIn descriptor.fields .peripheral,
    ∀ condition ∈ field.visible, ∀ key ∈ condition.keys,
      ∃ other ∈ Settings.fieldsIn descriptor.fields .peripheral, other.key = key
  /-- The settings of the peripheral as a whole that conditions read always matter. -/
  reads_settled : ∀ field ∈ descriptor.fields, ∀ condition ∈ field.visible,
    ∀ key ∈ condition.keys, ∀ other ∈ Settings.fieldsIn descriptor.fields .peripheral,
      other.key = key → other.visible = none

instance (descriptor : Descriptor) : Decidable descriptor.IsLayered :=
  decidable_of_iff
    ((∀ field ∈ Settings.fieldsIn descriptor.fields .peripheral,
        descriptor.field? field.key = some field) ∧
      (∀ field ∈ Settings.fieldsIn descriptor.fields .peripheral,
        ∀ condition ∈ field.visible, ∀ key ∈ condition.keys,
          ∃ other ∈ Settings.fieldsIn descriptor.fields .peripheral, other.key = key) ∧
      ∀ field ∈ descriptor.fields, ∀ condition ∈ field.visible, ∀ key ∈ condition.keys,
        ∀ other ∈ Settings.fieldsIn descriptor.fields .peripheral,
          other.key = key → other.visible = none)
    ⟨fun ⟨hfield, hshared, hsettled⟩ => ⟨hfield, hshared, hsettled⟩,
      fun ⟨hfield, hshared, hsettled⟩ => ⟨hfield, hshared, hsettled⟩⟩

namespace IsLayered

/-- What is filled in for the peripheral as a whole is what pins inherit. -/
theorem get?_filled (hlayered : descriptor.IsLayered) {field : Field}
    (hfield : field ∈ Settings.fieldsIn descriptor.fields .peripheral) :
    (Settings.filled descriptor.fields .peripheral given).get? field.key =
      descriptor.inherited given field.key := by
  have hfound : ((Settings.fieldsIn descriptor.fields .peripheral).find? fun other =>
      other.key == field.key).isSome = true :=
    List.find?_isSome.mpr ⟨field, hfield, beq_self_eq_true field.key⟩
  obtain ⟨first, hfirst⟩ := Option.isSome_iff_exists.mp hfound
  have hmem := List.mem_of_find?_eq_some hfirst
  have hkey : first.key = field.key := by simpa using List.find?_some hfirst
  rw [Settings.filled, Settings.get?_withDefaults, hfirst, inherited, ← hkey,
    hlayered.field?_eq first hmem]

/-- Only settings that do not matter for the peripheral as a whole are withheld. -/
theorem hides_of_withholds (hlayered : descriptor.IsLayered)
    (h : descriptor.Withholds given key) :
    Settings.Hides descriptor.fields .peripheral given key := by
  by_contra hmatters
  obtain ⟨field, hfield, rfl⟩ := exists_field_of_withholds h
  refine h ?_
  rw [inherited, Settings.get?_effective_of_not_hides hmatters, hlayered.get?_filled hfield,
    inherited, Option.or_assoc, Option.or_self]

/-- Settings that conditions read are not withheld. -/
theorem not_withholds_of_reads (hlayered : descriptor.IsLayered) {field : Field}
    (hfield : field ∈ descriptor.fields) {condition : Condition}
    (hcondition : condition ∈ field.visible) (hkey : key ∈ condition.keys) :
    ¬descriptor.Withholds given key := by
  intro hwithholds
  obtain ⟨other, hother, hsame, hhidden⟩ := hlayered.hides_of_withholds hwithholds
  have hsettled := hlayered.reads_settled field hfield condition hcondition key hkey other hother
    hsame
  rw [Field.isVisible, hsettled] at hhidden
  cases hhidden

/-- Whether a field matters for a pin does not depend on whether the settings for the peripheral
are given or in force. -/
theorem isVisible_filled_pin (hlayered : descriptor.IsLayered) {field : Field}
    (hfield : field ∈ descriptor.fields) :
    field.isVisible (Settings.filled descriptor.fields .pin
        ((given.effective descriptor.fields .peripheral).overlay own)) =
      field.isVisible (Settings.filled descriptor.fields .pin (given.overlay own)) := by
  refine Condition.holdsIfGiven_congr fun condition hcondition key hkey => ?_
  rw [get?_filled_pin, get?_filled_pin,
    not_not.mp (hlayered.not_withholds_of_reads hfield hcondition hkey)]

/-- A field of the peripheral as a whole matters for a pin if it does for the peripheral. -/
theorem isVisible_filled_peripheral (hlayered : descriptor.IsLayered)
    (hown : descriptor.IsOwn own) {field : Field}
    (hfield : field ∈ Settings.fieldsIn descriptor.fields .peripheral) :
    field.isVisible (Settings.filled descriptor.fields .pin (given.overlay own)) =
      field.isVisible (Settings.filled descriptor.fields .peripheral given) := by
  refine Condition.holdsIfGiven_congr fun condition hcondition key hkey => ?_
  obtain ⟨other, hother, rfl⟩ := hlayered.reads_shared field hfield condition hcondition key hkey
  rw [get?_filled_pin, hown other hother, Option.none_or, hlayered.get?_filled hother]

/-- The same settings matter for a pin, whether the settings for the peripheral are given or in
force. -/
theorem hides_pin_iff (hlayered : descriptor.IsLayered) :
    Settings.Hides descriptor.fields .pin
        ((given.effective descriptor.fields .peripheral).overlay own) key ↔
      Settings.Hides descriptor.fields .pin (given.overlay own) key := by
  refine exists_congr fun field => and_congr_right fun hfield => ?_
  rw [hlayered.isVisible_filled_pin (List.mem_filter.mp hfield).1]

/-- Settings that are withheld do not matter for a pin either. -/
theorem hides_pin_of_withholds (hlayered : descriptor.IsLayered) (hown : descriptor.IsOwn own)
    (h : descriptor.Withholds given key) :
    Settings.Hides descriptor.fields .pin (given.overlay own) key := by
  obtain ⟨field, hfield, hkey, hhidden⟩ := hlayered.hides_of_withholds h
  refine ⟨field, ?_, hkey, ?_⟩
  · exact List.mem_filter.mpr ⟨(List.mem_filter.mp hfield).1, rfl⟩
  · rw [hlayered.isVisible_filled_peripheral hown hfield, hhidden]

/-- The settings of a pin do not depend on whether those for the peripheral as a whole are given
or in force. -/
theorem pinSettings_eq (hlayered : descriptor.IsLayered) (hown : descriptor.IsOwn own) :
    descriptor.pinSettings (given.effective descriptor.fields .peripheral) own =
      descriptor.pinSettings given own := by
  refine SortedMap.ext_get? fun key => ?_
  unfold pinSettings
  by_cases hhidden : Settings.Hides descriptor.fields .pin (given.overlay own) key
  · rw [Settings.get?_effective_of_hides hhidden,
      Settings.get?_effective_of_hides (hlayered.hides_pin_iff.mpr hhidden)]
  · have hinherits := not_not.mp (mt (hlayered.hides_pin_of_withholds hown) hhidden)
    rw [Settings.get?_effective_of_not_hides hhidden,
      Settings.get?_effective_of_not_hides (mt hlayered.hides_pin_iff.mp hhidden), get?_filled_pin,
      get?_filled_pin, hinherits]

end IsLayered

/-! ## The two ways compared -/

/-- A setting that is withheld has a default instead. -/
theorem default_of_withholds {value : Value} (hown : descriptor.IsOwn own)
    (hwithholds : descriptor.Withholds given key)
    (h : (descriptor.pinSettings (given.effective descriptor.fields .peripheral) own).get? key =
      some value) :
    ∃ field ∈ descriptor.fields, field.key = key ∧ field.default = value := by
  obtain ⟨field, hfield, rfl⟩ := exists_field_of_withholds hwithholds
  have hinherited := get?_pinSettings (Option.isSome_iff_exists.mpr ⟨value, h⟩)
  rw [h, hown field hfield, Option.none_or, inherited, eq_comm, Option.or_eq_some_iff] at hinherited
  rcases hinherited with hshared | ⟨-, hdefault⟩
  · rcases Settings.given_or_default_of_effective hshared with hgiven | ⟨other, hother, hkey⟩
    · -- A given value that is in force is inherited as it is.
      refine absurd ?_ hwithholds
      rw [inherited, inherited, hshared, hgiven]
    · exact ⟨other, (List.mem_filter.mp hother).1, hkey⟩
  · obtain ⟨other, hother, hvalue⟩ := Option.map_eq_some_iff.mp hdefault
    have hkey : other.key = field.key := by simpa using List.find?_some hother
    exact ⟨other, List.mem_of_find?_eq_some hother, hkey, hvalue⟩

/-- The code for a pin and its pin-change interrupt have the same settings exactly if the same
ones matter and none of them is withheld. A setting that is given is withheld if it does not
matter for the peripheral as a whole and is not its default. Pin-change interrupts have the
pin's own values, then those given for the peripheral, then defaults, and so has the code for
the pin, but for a default where a setting is withheld. The two always agree in layered
descriptors. -/
theorem pinSettings_peripheralSettings (state : State) (hown : descriptor.IsOwn own) :
    (descriptor.pinSettings (descriptor.peripheralSettings state) own =
        descriptor.pinSettings state.settings own ↔
      ∀ key, (descriptor.pinSettings (descriptor.peripheralSettings state) own).contains key =
          (descriptor.pinSettings state.settings own).contains key ∧
        ((descriptor.pinSettings state.settings own).contains key = true →
          ¬descriptor.Withholds state.settings key)) ∧
    (∀ key value, state.settings.get? key = some value →
      (descriptor.Withholds state.settings key ↔
        Settings.Hides descriptor.fields .peripheral state.settings key ∧
          (descriptor.field? key).map Field.default ≠ some value)) ∧
    (∀ key value, (descriptor.pinSettings state.settings own).get? key = some value →
      some value = (own.get? key).or ((state.settings.get? key).or
        ((descriptor.field? key).map Field.default))) ∧
    (∀ key value,
      (descriptor.pinSettings (descriptor.peripheralSettings state) own).get? key = some value →
      if descriptor.Withholds state.settings key then
        ∃ field ∈ descriptor.fields, field.key = key ∧ field.default = value
      else some value = (own.get? key).or ((state.settings.get? key).or
        ((descriptor.field? key).map Field.default))) ∧
    (descriptor.IsLayered → descriptor.pinSettings (descriptor.peripheralSettings state) own =
      descriptor.pinSettings state.settings own) := by
  have hvalue {shared : Settings} {key : String} {value : Value}
      (h : (descriptor.pinSettings shared own).get? key = some value) :
      some value = (own.get? key).or (descriptor.inherited shared key) :=
    h.symm.trans (get?_pinSettings (Option.isSome_iff_exists.mpr ⟨value, h⟩))
  refine ⟨pinSettings_eq_iff hown, fun _ _ => withholds_iff_of_given, fun _ _ => hvalue, ?_,
    fun hlayered => hlayered.pinSettings_eq hown⟩
  intro key value h
  split
  · next hwithholds => exact default_of_withholds hown hwithholds h
  · next hinherits => exact (hvalue h).trans (congrArg _ (not_not.mp hinherits))

end Descriptor

namespace Atmega328p

/-- On the built-in chip, no condition reads a setting that may be withheld. -/
theorem isLayered_of_mem : ∀ descriptor ∈ device.peripherals, descriptor.IsLayered := by
  decide +kernel

/-- A record with the duty cycle of a compare output. -/
def dutySettings : Settings := .ofList [("duty", .int 7)]

/-- A state of Timer0 with a compare value, which does not matter for its mode. -/
def pwmState : State :=
  .pinBound (.ofList [(pinAt .d 6, dutySettings)])
    (.ofList [("mode", .text "Fast PWM"), ("top", .int 9)]) ∅

/-- The compare value is withheld, and yet the compare output has the settings that are given. -/
theorem pinSettings_peripheralSettings_timer0 :
    timer0.IsOwn dutySettings ∧ timer0.Withholds pwmState.settings "top" ∧
    timer0.pinSettings (timer0.peripheralSettings pwmState) dutySettings =
      timer0.pinSettings pwmState.settings dutySettings := by
  have hown : timer0.IsOwn dutySettings := by decide
  have hshared := Descriptor.pinSettings_peripheralSettings pwmState hown
  refine ⟨hown, (hshared.2.1 "top" (.int 9) (by decide)).mpr ?_, hshared.2.2.2.2 ?_⟩
  · decide +kernel
  · exact isLayered_of_mem timer0 (by decide)

end Atmega328p

/-! ## A setting that is withheld -/

namespace Device

/-- A description of a device whose pins have the pull-up of their peripheral if they float. -/
def floatingText : String :=
  "<device name='m'><peripheral id='pcint' kind='pin-bound'><signal name='S' pins='PB0'/>" ++
  "<field key='floating' kind='flag' scope='pin' default='false'/>" ++
  "<field key='pullup' kind='flag' scope='peripheral' default='false' visible='floating'/>" ++
  "<templates scope='pin' key='init'><line>P=\x7b\x7bpullup\x7d\x7d;</line></templates>" ++
  "</peripheral></device>"

/-- The pin of that device. -/
def floatingPin : Pin := ⟨.b, ⟨0, by decide⟩⟩

/-- The peripheral of that device. -/
def floatingDescriptor : Descriptor :=
  { id := .pcint, name := "pcint", footprint := .pinBound, needsAllPins := false
    signals := [⟨"S", [floatingPin]⟩]
    fields := [⟨"floating", "floating", .flag, .pin, .bool false, none⟩,
      ⟨"pullup", "pullup", .flag, .peripheral, .bool false, some (.ofClauses [.isSet "floating"])⟩]
    mode := none, tables := ∅, signature := .plain "pcint_init", interrupts := []
    templates := [⟨.pin, "init", none, none, [],
      [.ofSegments [.literal "P=", .placeholder "pullup", .literal ";"]]⟩] }

/-- That device. -/
def floatingDevice : Device := ⟨"m", none, [floatingDescriptor], []⟩

/-- The description is accepted. -/
theorem parse_floatingText : parse floatingText = .ok floatingDevice := by decide +kernel

/-- A record that lets a pin float. -/
def floatingSettings : Settings := .ofList [("floating", .bool true)]

/-- A state in which the pin floats, with a pull-up. -/
def floatingState : State :=
  .pinBound (.ofList [(floatingPin, floatingSettings)]) (.ofList [("pullup", .bool true)]) ∅

/-- A pin that floats has its pull-up for its pin-change interrupt, and not for its own code. -/
theorem pullUp_withheld :
    parse floatingText = .ok floatingDevice ∧ floatingDescriptor.IsOwn floatingSettings ∧
    (floatingDescriptor.pinSettings floatingState.settings floatingSettings).get? "pullup" =
      some (.bool true) ∧
    (floatingDescriptor.pinSettings (floatingDescriptor.peripheralSettings floatingState)
      floatingSettings).get? "pullup" = some (.bool false) ∧
    PinChange.explicitRequests floatingDevice (.ofList [(.pcint, floatingState)]) =
      [⟨floatingPin, true, .explicit⟩] ∧
    (floatingDescriptor.expand floatingState none).map (Expansion.linesOf · "pcint_init") =
      .ok ["P=0;"] :=
  ⟨parse_floatingText, by decide +kernel⟩

end Device

end AvrSetup
