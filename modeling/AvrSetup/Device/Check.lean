import AvrSetup.Device.Failure
import AvrSetup.Device.Basic
import AvrSetup.Resolution

/-!
# Consistency of descriptions

What a descriptor refers to has to be declared by it, and its mode keys have to tell the
values of the mode setting apart. `Descriptor.fault?` finds the first violation.
-/

namespace AvrSetup

/-- The first pin that stands in a list a second time. -/
def firstRepeated (earlier : List Pin) : List Pin → Option Pin
  | [] => none
  | pin :: rest => if earlier.contains pin then some pin else firstRepeated (pin :: earlier) rest

namespace Descriptor

/-- The conditions of a descriptor: of its fields, its templates and its interrupts. -/
def conditions (descriptor : Descriptor) : List Condition :=
  descriptor.fields.filterMap Field.visible ++
    descriptor.templates.filterMap TemplateSet.condition ++
    descriptor.interrupts.filterMap Interrupt.applies

/-- The keys of all settings that a descriptor refers to. -/
def referredFields (descriptor : Descriptor) : List String :=
  descriptor.conditions.flatMap Condition.keys ++ descriptor.tables.keys ++
    descriptor.mode.toList.map ModeTable.field ++
    descriptor.signature.parameters.map Parameter.field

/-- The values that a mode setting may have, if they are listed. -/
def modeValues (descriptor : Descriptor) (mode : ModeTable) : List String :=
  match (descriptor.field? mode.field).map Field.kind with
  | some (.choice values) => values
  | _ => []

/-- A value other than the given one, to whose mode key a mode table leads. -/
def mappedFrom? (mode : ModeTable) (value key : String) : Option String :=
  (mode.keys.entries.find? fun entry => entry.2 == key && entry.1 != value).map (·.1)

/-- The first listed value of a mode setting that derives a mode key given to another one. -/
def modeCollision? (descriptor : Descriptor) (mode : ModeTable) : Option Device.Failure :=
  ((descriptor.modeValues mode).filter fun value => !mode.keys.contains value).findSome?
    fun value => (mappedFrom? mode value (derivedModeKey value)).map fun mappedFrom =>
      .modeKeyCollision descriptor.id value (derivedModeKey value) mappedFrom

/-- The first violation of the rules on descriptors. -/
def fault? (descriptor : Descriptor) : Option Device.Failure :=
  let globalWithPins : Option Device.Failure :=
    if descriptor.footprint = .global ∧ descriptor.signals ≠ [] then
      some (.globalWithPins descriptor.id)
    else none
  let duplicatePin := (firstRepeated [] descriptor.declaredPins).map
    (Device.Failure.duplicatePin descriptor.id)
  let undeclaredField := (descriptor.referredFields.find? fun key =>
    (descriptor.field? key).isNone).map (Device.Failure.undeclaredField descriptor.id)
  let undeclaredSignal := ((descriptor.interrupts.filterMap Interrupt.signal).find? fun signal =>
    (descriptor.pinsOf signal).isEmpty).map (Device.Failure.undeclaredSignal descriptor.id)
  globalWithPins <|> duplicatePin <|> undeclaredField <|> undeclaredSignal <|>
    descriptor.mode.bind descriptor.modeCollision?

end Descriptor

end AvrSetup
