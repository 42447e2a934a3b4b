import AvrSetup.Device.Basic

/-!
# Vocabulary for describing a chip

Short forms for the fields, tables, templates and interrupts of a description, and the
lines of code that several peripherals share.
-/

namespace AvrSetup.Atmega328p

/-! ## Pins and settings -/

/-- A pin of a port, by the number of its bit. -/
def pinAt (port : Port) (bit : Nat) : Pin := ⟨port, ⟨bit % 8, Nat.mod_lt bit (Nat.zero_lt_succ 7)⟩⟩

/-- Pins of port B. -/
def portB (bits : List Nat) : List Pin := bits.map (pinAt .b)

/-- Pins of port C. -/
def portC (bits : List Nat) : List Pin := bits.map (pinAt .c)

/-- Pins of port D. -/
def portD (bits : List Nat) : List Pin := bits.map (pinAt .d)

/-- All pins that the chip brings out. -/
def everyPin : List Pin :=
  portB [0, 1, 2, 3, 4, 5, 6, 7] ++ portC [0, 1, 2, 3, 4, 5] ++ portD [0, 1, 2, 3, 4, 5, 6, 7]

/-- A setting with one of some texts. -/
def choice (scope : Scope) (key name : String) (values : List String) (default : String) : Field :=
  ⟨key, name, .choice values, scope, .text default, none⟩

/-- A setting with an integer in a range. -/
def number (scope : Scope) (key name : String) (least greatest default : Int) : Field :=
  ⟨key, name, .int least greatest, scope, .int default, none⟩

/-- A setting with a truth value. -/
def flag (scope : Scope) (key name : String) (default : Bool) : Field :=
  ⟨key, name, .flag, scope, .bool default, none⟩

/-- The setting, to matter only under a requirement. -/
def shownWhen (clause : Clause) (field : Field) : Field :=
  { field with visible := some (.ofClauses [clause]) }

/-- The texts that stand for the values of a setting in code. -/
def table (field : String) (entries : List (String × String)) : String × ValueTable :=
  (field, .ofList entries)

/-! ## Code -/

/-- Text of a template. -/
def text (content : String) : Segment := .literal content

/-- A placeholder of a template. -/
def fill (name : String) : Segment := .placeholder name

/-- A line of code with placeholders. -/
def code (segments : List Segment) : Template := .ofSegments segments

/-- A line of code without placeholders. -/
def plain (content : String) : Template := code [text content]

/-- Make the pin an input. -/
def makeInput : Template :=
  code [fill "ddr_reg", text " &= ~_BV(", fill "ddr_bit", text ");"]

/-- Make the pin an output. -/
def makeOutput : Template :=
  code [fill "ddr_reg", text " |= _BV(", fill "ddr_bit", text ");"]

/-- Drive the pin low, or leave it without pull-up. -/
def clearPort : Template :=
  code [fill "port_reg", text " &= ~_BV(", fill "port_bit", text ");"]

/-- Drive the pin high, or pull it up. -/
def setPort : Template :=
  code [fill "port_reg", text " |= _BV(", fill "port_bit", text ");"]

/-- Templates for the peripheral as a whole. -/
def once (key : String) (lines : List Template) : TemplateSet :=
  ⟨.peripheral, key, none, none, [], lines⟩

/-- Templates for each pin. -/
def perPin (key : String) (lines : List Template) : TemplateSet :=
  ⟨.pin, key, none, none, [], lines⟩

/-- The templates, to apply only under a requirement. -/
def onlyWhen (clause : Clause) (set : TemplateSet) : TemplateSet :=
  { set with condition := some (.ofClauses [clause]) }

/-- The templates, for another routine than the peripheral's own. -/
def into (routine : String) (set : TemplateSet) : TemplateSet :=
  { set with routine := some routine }

/-- The templates, with the headers that their code needs. -/
def needing (headers : List String) (set : TemplateSet) : TemplateSet :=
  { set with includes := headers }

/-- An interrupt that is disabled by default. -/
def interrupt (name label vector description : String) (enable handler : List Template) :
    Interrupt :=
  ⟨name, label, description, vector, false, none, none, enable, handler⟩

/-- The interrupt, to be enabled by default. -/
def byDefault (interrupt : Interrupt) : Interrupt := { interrupt with enabledByDefault := true }

/-- The interrupt, to be enabled only with a pin of a signal. -/
def onSignal (signal : String) (interrupt : Interrupt) : Interrupt :=
  { interrupt with signal := some signal }

/-- The interrupt, to be enabled only under a requirement. -/
def possibleWhen (clause : Clause) (interrupt : Interrupt) : Interrupt :=
  { interrupt with applies := some (.ofClauses [clause]) }

end AvrSetup.Atmega328p
