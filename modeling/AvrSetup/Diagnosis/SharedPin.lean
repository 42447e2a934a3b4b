import AvrSetup.Diagnosis.Conflict

/-!
# Pins that are shared outside the rules

Two active peripherals on one pin deserve a warning even where no rule is about them. Two
pairs are exempt: those that some rule is about, as that rule gives a conflict, and plain
input beside pin-change interrupts, as their requests for a pin are merged.
-/

namespace AvrSetup

/-- All pairs of members of a list, the earlier member first. -/
def pairs {α : Type} : List α → List (α × α)
  | [] => []
  | head :: rest => rest.map (head, ·) ++ pairs rest

/-- Whether two peripherals may share any pin. -/
def mayShare (left right : Peripheral) : Bool :=
  (left, right) == (.gpio, .pcint) || (left, right) == (.pcint, .gpio)

/-- Whether a rule is about two peripherals on a pin. -/
def ConflictRule.covers (rule : ConflictRule) (pin : Pin) (left right : Peripheral) : Bool :=
  rule.pins.contains pin &&
    (rule.trigger == left && rule.forbids right || rule.trigger == right && rule.forbids left)

/-- Whether some rule of a device is about two peripherals on a pin. -/
def Device.covers (device : Device) (pin : Pin) (left right : Peripheral) : Bool :=
  device.rules.any fun rule => rule.covers pin left right

/-- The warning to a peripheral that another one takes its pin. -/
def Diagnostic.sharedPin (pin : Pin) (earlier later : Peripheral) : Diagnostic :=
  (Diagnostic.warning .sharedPin later (pin.name ++ " is also used by " ++ earlier.name)).atPin pin

/-- The warnings about one pin. -/
def Device.sharedPin (device : Device) (configuration : Configuration) (pin : Pin) :
    List Diagnostic :=
  ((pairs (configuration.ownersOf pin)).filter fun (left, right) =>
    !mayShare left right && !device.covers pin left right).map
      fun (left, right) => .sharedPin pin left right

/-- The warnings about all pins, ascending. -/
def Device.sharedPins (device : Device) (configuration : Configuration) : List Diagnostic :=
  Pin.all.flatMap fun pin => device.sharedPin configuration pin

end AvrSetup
