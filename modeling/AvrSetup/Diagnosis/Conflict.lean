import AvrSetup.Configuration.Basic
import AvrSetup.Device.Basic
import AvrSetup.Diagnosis.Basic

/-!
# Conflicts over pins

A rule of the device reserves pins for a peripheral. Where that peripheral takes such a
pin and an active peripheral that the rule keeps away takes it too, there is a conflict.
Each rule is looked at by itself, so that one shared pin may give several conflicts.
-/

namespace AvrSetup

/-- A pin that is shared although a rule forbids it. -/
structure Conflict where
  /-- The peripheral that the pin is reserved for. -/
  trigger : Peripheral
  /-- The peripheral that uses the pin as well. -/
  other : Peripheral
  /-- The pin. -/
  pin : Pin
  /-- What the rule says. -/
  message : String
  deriving DecidableEq, Repr

namespace Conflict

/-- A conflict on one line. -/
def text (conflict : Conflict) : String :=
  conflict.pin.name ++ ": " ++ conflict.message ++ " (" ++ conflict.other.name ++
    " cannot share it with " ++ conflict.trigger.name ++ ")"

/-- The warning about a conflict. -/
def toDiagnostic (conflict : Conflict) : Diagnostic :=
  (Diagnostic.warning .conflict conflict.other conflict.text).atPin conflict.pin

end Conflict

/-- The active peripherals that take a pin, ascending. -/
def Configuration.ownersOf (configuration : Configuration) (pin : Pin) : List Peripheral :=
  (configuration.active.filter fun entry => entry.2.occupies pin).map (·.1)

/-- The pins of a rule that are taken by the peripheral that they are reserved for. -/
def ConflictRule.reservedPins (rule : ConflictRule) (configuration : Configuration) : List Pin :=
  match configuration.get? rule.trigger with
  | some state => rule.pins.filter state.occupies
  | none => []

/-- The conflicts with one rule. -/
def ConflictRule.conflicts (rule : ConflictRule) (configuration : Configuration) :
    List Conflict :=
  (rule.reservedPins configuration).flatMap fun pin =>
    ((configuration.ownersOf pin).filter rule.forbids).map fun other =>
      ⟨rule.trigger, other, pin, rule.message⟩

/-- The conflicts with all rules of a device. -/
def Device.conflicts (device : Device) (configuration : Configuration) : List Conflict :=
  device.rules.flatMap fun rule => rule.conflicts configuration

end AvrSetup
