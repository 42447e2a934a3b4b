import AvrSetup.Proofs.SharedSettings

/-!
# Settings that are resolved twice

Code for a pin is made from settings that have been resolved for its peripheral before. The
second pass gives a setting that the first one left out its default again, and a condition that
reads this default may then come out differently. This file shows that nothing changes where no
condition reads a setting that may be left out (`Settings.ReadsSettled`): the second pass leaves
out what the first one did (`Settings.effective_effective`).
-/

namespace AvrSetup

namespace Settings

variable {fields : List Field} {scope : Scope} {given : Settings} {key : String}

/-- No condition of a field of the scope reads a setting that may not matter itself. -/
def ReadsSettled (fields : List Field) (scope : Scope) : Prop :=
  ∀ field ∈ fieldsIn fields scope, ∀ condition ∈ field.visible, ∀ key ∈ condition.keys,
    ∀ other ∈ fieldsIn fields scope, other.key = key → other.visible = none

instance (fields : List Field) (scope : Scope) : Decidable (ReadsSettled fields scope) :=
  inferInstanceAs (Decidable (∀ _ ∈ _, _))

/-- Filling in again gives each setting that matters the value that it has. -/
theorem get?_filled_effective (h : ¬Hides fields scope given key) :
    (filled fields scope (effective fields scope given)).get? key =
      (filled fields scope given).get? key := by
  rw [filled, get?_withDefaults, get?_effective_of_not_hides h, filled, get?_withDefaults,
    Option.or_assoc, Option.or_self]

namespace ReadsSettled

/-- A setting that some condition reads matters. -/
theorem not_hides (hsettled : ReadsSettled fields scope) {field : Field}
    (hfield : field ∈ fieldsIn fields scope) {condition : Condition}
    (hcondition : condition ∈ field.visible) (hkey : key ∈ condition.keys) :
    ¬Hides fields scope given key := by
  rintro ⟨other, hother, hsame, hhidden⟩
  have hnone := hsettled field hfield condition hcondition key hkey other hother hsame
  rw [Field.isVisible, hnone] at hhidden
  cases hhidden

/-- A field matters in the second pass if it does in the first. -/
theorem isVisible_filled_effective (hsettled : ReadsSettled fields scope) {field : Field}
    (hfield : field ∈ fieldsIn fields scope) :
    field.isVisible (filled fields scope (effective fields scope given)) =
      field.isVisible (filled fields scope given) := by
  refine Condition.holdsIfGiven_congr fun condition hcondition key hkey => ?_
  exact get?_filled_effective (hsettled.not_hides hfield hcondition hkey)

/-- The second pass leaves out the settings that the first one does. -/
theorem hides_effective_iff (hsettled : ReadsSettled fields scope) :
    Hides fields scope (effective fields scope given) key ↔ Hides fields scope given key := by
  refine exists_congr fun field => and_congr_right fun hfield => ?_
  rw [hsettled.isVisible_filled_effective hfield]

/-- A second pass changes nothing. -/
theorem effective_eq (hsettled : ReadsSettled fields scope) :
    effective fields scope (effective fields scope given) = effective fields scope given := by
  refine SortedMap.ext_get? fun key => ?_
  by_cases hhidden : Hides fields scope given key
  · rw [get?_effective_of_hides hhidden,
      get?_effective_of_hides (hsettled.hides_effective_iff.mpr hhidden)]
  · rw [get?_effective_of_not_hides hhidden,
      get?_effective_of_not_hides (mt hsettled.hides_effective_iff.mp hhidden),
      get?_filled_effective hhidden]

end ReadsSettled

end Settings

/-! ## The built-in chip -/

namespace Atmega328p

/-- On the built-in chip, the settings that conditions read always matter. -/
theorem readsSettled_of_mem {descriptor : Descriptor}
    (hdescriptor : descriptor ∈ device.peripherals) (scope : Scope) :
    Settings.ReadsSettled descriptor.fields scope := by
  have hall : ∀ descriptor ∈ device.peripherals,
      Settings.ReadsSettled descriptor.fields .pin ∧
        Settings.ReadsSettled descriptor.fields .peripheral := by
    decide +kernel
  obtain ⟨hpin, hperipheral⟩ := hall descriptor hdescriptor
  cases scope with
  | pin => exact hpin
  | peripheral => exact hperipheral

end Atmega328p

namespace Settings

/-- Resolving settings twice is resolving them once where no condition of a field of the scope
reads a setting that may not matter itself. All peripherals of the built-in chip are so. -/
theorem effective_effective :
    (∀ (fields : List Field) (scope : Scope) (given : Settings), ReadsSettled fields scope →
      effective fields scope (effective fields scope given) = effective fields scope given) ∧
    ∀ descriptor ∈ Atmega328p.device.peripherals, ∀ scope,
      ReadsSettled descriptor.fields scope :=
  ⟨fun _ _ _ hsettled => hsettled.effective_eq,
    fun _ hdescriptor => Atmega328p.readsSettled_of_mem hdescriptor⟩

end Settings

namespace Atmega328p

/-- Settings of Timer0 with a compare value that is no number and does not matter, and with one
that no field declares. -/
def strangeSettings : Settings :=
  .ofList [("mode", .text "Fast PWM"), ("top", .text "many"), ("colour", .text "red")]

/-- Resolving these settings twice is resolving them once, although every field is declared twice
and one of the settings is left out. -/
theorem effective_effective_timer0 :
    Settings.ReadsSettled (timer0.fields ++ timer0.fields) .peripheral ∧
      Settings.Hides (timer0.fields ++ timer0.fields) .peripheral strangeSettings "top" ∧
      Settings.effective (timer0.fields ++ timer0.fields) .peripheral
          (Settings.effective (timer0.fields ++ timer0.fields) .peripheral strangeSettings) =
        Settings.effective (timer0.fields ++ timer0.fields) .peripheral strangeSettings := by
  have hsettled : Settings.ReadsSettled (timer0.fields ++ timer0.fields) .peripheral := by
    decide +kernel
  exact ⟨hsettled, by decide +kernel, Settings.effective_effective.1 _ _ _ hsettled⟩

end Atmega328p

end AvrSetup
