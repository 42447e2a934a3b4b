import AvrSetup.Device.Field
import AvrSetup.Peripheral
import AvrSetup.Pin
import AvrSetup.Template.Basic

/-!
# Descriptions of peripherals

A descriptor says all that is known about one peripheral of a chip: the pins that its
signals reach, its settings, the templates that its code is made from, and its interrupts.
Everything is kept in the order in which it was declared, and where a name is declared
twice the first declaration is meant.
-/

namespace AvrSetup

/-- What a peripheral takes up. -/
inductive Footprint where
  /-- The peripheral uses pins. -/
  | pinBound
  /-- The peripheral has no pins. -/
  | global
  deriving DecidableEq, Repr

/-- The word for a footprint. -/
def Footprint.word : Footprint → String
  | pinBound => "pin-bound"
  | global => "global"

/-- The footprint that a word names. -/
def Footprint.ofWord? : String → Option Footprint
  | "pin-bound" => some pinBound
  | "global" => some global
  | _ => none

/-- A signal of a peripheral and the pins that it reaches. -/
structure Signal where
  /-- The name of the signal. -/
  name : String
  /-- The pins. -/
  pins : List Pin
  deriving DecidableEq, Repr

/-- The setting that selects templates, and the template keys for its values. -/
structure ModeTable where
  /-- The key of the setting. -/
  field : String
  /-- The template keys of values that do not stand for themselves. -/
  keys : ValueTable
  deriving DecidableEq

/-- A parameter of an init routine, filled by a setting. -/
structure Parameter where
  /-- The name of the parameter. -/
  name : String
  /-- Its C type. -/
  cType : String
  /-- The key of the setting. -/
  field : String
  deriving DecidableEq, Repr

/-- The name and the parameters of an init routine. -/
structure Signature where
  /-- The name of the routine. -/
  name : String
  /-- Its parameters. -/
  parameters : List Parameter
  deriving DecidableEq, Repr

namespace Signature

/-- A routine without parameters. -/
def plain (name : String) : Signature := ⟨name, []⟩

/-- The parameter list as it stands in a C prototype. -/
def parameterList (signature : Signature) : String :=
  if signature.parameters = [] then "void"
  else String.intercalate ", " (signature.parameters.map fun p => p.cType ++ " " ++ p.name)

end Signature

/-- An interrupt of a peripheral. -/
structure Interrupt where
  /-- The name of the interrupt. -/
  name : String
  /-- How it is called in comments. -/
  label : String
  /-- What it is for. -/
  description : String
  /-- The name of its vector. -/
  vector : String
  /-- Whether it is enabled when nothing is said about it. -/
  enabledByDefault : Bool
  /-- When it can be enabled. -/
  applies : Option Condition
  /-- The signal whose pin it needs. -/
  signal : Option String
  /-- The code that enables it. -/
  enable : List Template
  /-- The code that handles it. -/
  handler : List Template
  deriving DecidableEq, Repr

/-- A group of templates that are selected together. -/
structure TemplateSet where
  /-- Whether the group is for each pin or for the peripheral. -/
  scope : Scope
  /-- The key that selects the group. -/
  key : String
  /-- When the group applies. -/
  condition : Option Condition
  /-- The routine that its code goes to, if that is not the peripheral's own. -/
  routine : Option String
  /-- The headers that its code needs. -/
  includes : List String
  /-- Its code. -/
  lines : List Template
  deriving DecidableEq, Repr

namespace TemplateSet

/-- Whether a group applies under a record of settings. -/
def appliesTo (set : TemplateSet) (settings : Settings) : Bool :=
  Condition.holdsIfGiven set.condition settings

/-- Whether a line of a group has a placeholder of a name. -/
def mentions (set : TemplateSet) (name : String) : Bool :=
  set.lines.any fun line => line.mentions name

/-- How a group is called in messages. -/
def label (set : TemplateSet) : String := set.scope.word ++ ":" ++ set.key

end TemplateSet

/-- A peripheral of a chip. -/
structure Descriptor where
  /-- Which peripheral it is. -/
  id : Peripheral
  /-- How it is called in messages. -/
  name : String
  /-- What it takes up. -/
  footprint : Footprint
  /-- Whether it works only with all of its pins. -/
  needsAllPins : Bool
  /-- Its signals. -/
  signals : List Signal
  /-- Its settings. -/
  fields : List Field
  /-- The setting that selects its templates. -/
  mode : Option ModeTable
  /-- The texts that stand for values in code, by setting. -/
  tables : SortedMap String ValueTable
  /-- Its init routine. -/
  signature : Signature
  /-- Its interrupts. -/
  interrupts : List Interrupt
  /-- Its templates. -/
  templates : List TemplateSet
  deriving DecidableEq

namespace Descriptor

/-- All pins that the signals reach. -/
def declaredPins (descriptor : Descriptor) : List Pin := descriptor.signals.flatMap Signal.pins

/-- Whether some signal reaches a pin. -/
def declaresPin (descriptor : Descriptor) (pin : Pin) : Bool := descriptor.declaredPins.contains pin

/-- The name of the signal that reaches a pin. -/
def signalOf (descriptor : Descriptor) (pin : Pin) : Option String :=
  (descriptor.signals.find? fun signal => signal.pins.contains pin).map Signal.name

/-- The pins that a signal reaches. -/
def pinsOf (descriptor : Descriptor) (name : String) : List Pin :=
  match descriptor.signals.find? fun signal => signal.name == name with
  | some signal => signal.pins
  | none => []

/-- The setting of a key. -/
def field? (descriptor : Descriptor) (key : String) : Option Field :=
  descriptor.fields.find? fun field => field.key == key

/-- The interrupt of a name. -/
def interrupt? (descriptor : Descriptor) (name : String) : Option Interrupt :=
  descriptor.interrupts.find? fun interrupt => interrupt.name == name

/-- The templates of a scope under a key. -/
def templateSets (descriptor : Descriptor) (scope : Scope) (key : String) : List TemplateSet :=
  descriptor.templates.filter fun set => set.scope == scope && set.key == key

end Descriptor

end AvrSetup
