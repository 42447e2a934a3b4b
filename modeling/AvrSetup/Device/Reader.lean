import AvrSetup.Device.Check
import AvrSetup.Xml.Document

/-!
# Reading device descriptions

A device is described by an XML document. Each kind of element has a function here that
reads it; faults are looked for in document order, in an element's attributes and children
in the order in which they are read below.
-/

namespace AvrSetup.Device

open Xml (Element)

/-- Report a fault of an element. -/
def fail {α : Type} (element : Element) (cause : Failure) : Except Fault α :=
  .error ⟨element.span, cause⟩

/-! ## Attributes and texts -/

/-- The value of an attribute that has to be there. -/
def required (element : Element) (name : String) : Except Fault String :=
  match element.attribute? name with
  | some value => .ok value
  | none => fail element (.expectedAttribute element.tag name)

/-- The value that an attribute is read as. -/
def interpret {α : Type} (element : Element) (name : String) (read : String → Option α)
    (value : String) : Except Fault α :=
  match read value with
  | some result => .ok result
  | none => fail element (.invalidAttribute name value)

/-- The value that a required attribute is read as. -/
def requiredAs {α : Type} (element : Element) (name : String) (read : String → Option α) :
    Except Fault α := do
  interpret element name read (← required element name)

/-- The value that an attribute is read as, if it is there. -/
def optionalAs {α : Type} (element : Element) (name : String) (read : String → Option α) :
    Except Fault (Option α) :=
  (element.attribute? name).mapM (interpret element name read)

/-- The condition that an attribute is, if it is there. -/
def conditionAt (element : Element) (name : String) : Except Fault (Option Condition) :=
  (element.attribute? name).mapM fun source =>
    (Condition.parse source).mapError fun failure => ⟨element.span, .condition failure⟩

/-- The peripheral that a word names. -/
def peripheralOf (element : Element) (word : String) : Except Fault Peripheral :=
  (Peripheral.ofName word).mapError fun failure => ⟨element.span, .unknownPeripheral failure⟩

/-- The pins that an attribute lists. -/
def pinsAt (element : Element) (name : String) : Except Fault (List Pin) := do
  (Text.wordsOf (← required element name)).mapM fun word =>
    (Pin.ofName word).mapError fun failure => ⟨element.span, .invalidPin failure⟩

/-- The text of an element, without the blanks around it. -/
def textOf (element : Element) : String := Text.trimmed element.leadingText

/-- The template that the text of an element is. -/
def templateOf (element : Element) : Except Fault Template :=
  (Template.parse (textOf element)).mapError fun failure => ⟨element.span, .template failure⟩

/-- Report an element that may not stand where it does. -/
def unexpected {α : Type} (parent child : Element) : Except Fault α :=
  fail child (.unexpectedElement child.tag parent.tag)

/-- Read the elements that an element holds, which all have to have one tag. -/
def eachChild {α : Type} (element : Element) (tag : String)
    (read : Element → Except Fault α) : Except Fault (List α) :=
  element.elements.mapM fun child =>
    if child.tag = tag then read child else unexpected element child

/-! ## Fields -/

/-- The values that a setting may have. -/
def readKind (element : Element) : Except Fault FieldKind := do
  match ← required element "kind" with
  | "choice" => return .choice (Text.alternatives (← required element "values").toList)
  | "int" =>
    let least ← requiredAs element "min" Text.readInt64
    let greatest ← requiredAs element "max" Text.readInt64
    return .int least greatest
  | "flag" => return .flag
  | other => fail element (.invalidAttribute "kind" other)

/-- The value that a text is as the default of a field. -/
def defaultOf? (kind : FieldKind) (text : String) : Option Value :=
  let value := match kind with
    | .choice _ => some (Value.text text)
    | .int .. => (Text.readInt64 text).map Value.int
    | .flag => (Text.readBool text).map Value.bool
  value.filter kind.admits

/-- Read a field. -/
def readField (element : Element) : Except Fault Field := do
  let key ← required element "key"
  let kind ← readKind element
  let scope ← requiredAs element "scope" Scope.ofWord?
  let defaultText ← required element "default"
  match defaultOf? kind defaultText with
  | none => fail element (.invalidDefault key defaultText)
  | some default =>
    let visible ← conditionAt element "visible"
    return ⟨key, (element.attribute? "name").getD key, kind, scope, default, visible⟩

/-- Read a table. A text that is listed twice is meant the second time. -/
def readTable (element : Element) : Except Fault ValueTable := do
  let entries ← eachChild element "map" fun child => do
    return (← required child "from", ← required child "to")
  return SortedMap.ofList entries

/-! ## Code -/

/-- Read an init routine. -/
def readSignature (element : Element) : Except Fault Signature := do
  let parameters ← eachChild element "param" fun child => do
    return ⟨← required child "name", ← required child "type", ← required child "field"⟩
  return ⟨← required element "name", parameters⟩

/-- What the lines of a template set or an interrupt are read into. -/
structure Lines where
  /-- The texts of the elements that hold plain text. -/
  texts : List String
  /-- The templates of the first kind of lines. -/
  first : List Template
  /-- The templates of the second kind of lines. -/
  second : List Template

/-- Take one child of a template set: a header or a line of code. -/
def takeTemplateChild (element : Element) (lines : Lines) (child : Element) :
    Except Fault Lines := do
  match child.tag with
  | "include" => return { lines with texts := lines.texts ++ [textOf child] }
  | "line" => return { lines with first := lines.first ++ [← templateOf child] }
  | _ => unexpected element child

/-- Read a group of templates. -/
def readTemplateSet (element : Element) : Except Fault TemplateSet := do
  let lines ← element.elements.foldlM (takeTemplateChild element) ⟨[], [], []⟩
  let scope ← requiredAs element "scope" Scope.ofWord?
  let key ← required element "key"
  let condition ← conditionAt element "when"
  return ⟨scope, key, condition, element.attribute? "routine", lines.texts, lines.first⟩

/-- Take one child of an interrupt: a description, or a line of code that enables or
handles it. -/
def takeInterruptChild (element : Element) (lines : Lines) (child : Element) :
    Except Fault Lines := do
  match child.tag with
  | "description" => return { lines with texts := [textOf child] }
  | "enable" => return { lines with first := lines.first ++ [← templateOf child] }
  | "handler" => return { lines with second := lines.second ++ [← templateOf child] }
  | _ => unexpected element child

/-- Read an interrupt. -/
def readInterrupt (element : Element) : Except Fault Interrupt := do
  let name ← required element "name"
  let lines ← element.elements.foldlM (takeInterruptChild element) ⟨[], [], []⟩
  let vector ← required element "vector"
  let enabled ← optionalAs element "default" Text.readBool
  let applies ← conditionAt element "applies"
  return ⟨name, (element.attribute? "label").getD name, lines.texts.headD "", vector,
    enabled.getD false, applies, element.attribute? "signal", lines.first, lines.second⟩

/-! ## Peripherals -/

/-- What the children of a peripheral are read into. -/
structure Parts where
  /-- The signals. -/
  signals : List Signal
  /-- The settings. -/
  fields : List Field
  /-- The setting that selects templates. -/
  mode : Option ModeTable
  /-- The tables of values. -/
  tables : SortedMap String ValueTable
  /-- The init routine. -/
  signature : Option Signature
  /-- The interrupts. -/
  interrupts : List Interrupt
  /-- The templates. -/
  templates : List TemplateSet

/-- Take one child of a peripheral. A mode, a routine or a table for one field that is
given twice is meant the second time. -/
def takePart (element : Element) (parts : Parts) (child : Element) : Except Fault Parts := do
  match child.tag with
  | "signal" =>
    let signal : Signal := ⟨← required child "name", ← pinsAt child "pins"⟩
    return { parts with signals := parts.signals ++ [signal] }
  | "field" => return { parts with fields := parts.fields ++ [← readField child] }
  | "mode" => return { parts with mode := some ⟨← required child "field", ← readTable child⟩ }
  | "values" =>
    let field ← required child "field"
    return { parts with tables := parts.tables.insert field (← readTable child) }
  | "routine" => return { parts with signature := some (← readSignature child) }
  | "interrupt" => return { parts with interrupts := parts.interrupts ++ [← readInterrupt child] }
  | "templates" => return { parts with templates := parts.templates ++ [← readTemplateSet child] }
  | _ => unexpected element child

/-- Read a peripheral. -/
def readPeripheral (element : Element) : Except Fault Descriptor := do
  let id ← peripheralOf element (← required element "id")
  let footprint ← requiredAs element "kind" Footprint.ofWord?
  let parts ← element.elements.foldlM (takePart element) ⟨[], [], none, ∅, none, [], []⟩
  let needsAllPins ← optionalAs element "all-pins" Text.readBool
  let descriptor : Descriptor :=
    { id, footprint
      name := (element.attribute? "name").getD id.name
      needsAllPins := needsAllPins.getD false
      signals := parts.signals
      fields := parts.fields
      mode := parts.mode
      tables := parts.tables
      signature := parts.signature.getD (.plain (id.name ++ "_init"))
      interrupts := parts.interrupts
      templates := parts.templates }
  match descriptor.fault? with
  | some cause => fail element cause
  | none => return descriptor

/-! ## Devices -/

/-- Read a rule on shared pins. -/
def readRule (element : Element) : Except Fault ConflictRule := do
  let pins ← pinsAt element "pins"
  let trigger ← peripheralOf element (← required element "trigger")
  let others ← (Text.wordsOf ((element.attribute? "with").getD "")).mapM (peripheralOf element)
  return ⟨pins, trigger, others, ← required element "message"⟩

/-- Take one child of a device: a peripheral or a group of rules. -/
def takeDeviceChild (element : Element) (device : Device) (child : Element) :
    Except Fault Device := do
  match child.tag with
  | "peripheral" =>
    let descriptor ← readPeripheral child
    if (device.descriptor? descriptor.id).isSome then
      fail child (.duplicatePeripheral descriptor.id)
    else return { device with peripherals := device.peripherals ++ [descriptor] }
  | "conflicts" =>
    let rules ← eachChild child "rule" readRule
    return { device with rules := device.rules ++ rules }
  | _ => unexpected element child

/-- The device that an element describes. -/
def ofElement (element : Element) : Except Fault Device := do
  if element.tag ≠ "device" then fail element (.unexpectedRoot element.tag)
  let device ← element.elements.foldlM (takeDeviceChild element) ⟨"", none, [], []⟩
  let name ← required element "name"
  let clock ← optionalAs element "clock" Text.readNat32
  return { device with name, clock }

/-- Read a description of a device. A text that is no document has its fault at the start. -/
def parse (text : String) : Except Fault Device := do
  ofElement (← (Xml.parse text).mapError fun failure =>
    ⟨⟨.start, .start⟩, .xml failure⟩)

end AvrSetup.Device
