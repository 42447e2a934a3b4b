import AvrSetup.Text.Quoted

/-!
# Pins and the registers behind them

A pin is named after its port and its bit, such as `PB5`, and the C headers for the chip
name registers and bits after the same two. The pins of one port share a pin-change
interrupt: one enable bit, one mask register and one vector. Pins are ordered by port and
then by bit, which is the order of their pin-change lines.
-/

namespace AvrSetup

/-- A port of the chip. -/
inductive Port where
  /-- Port B. -/
  | b
  /-- Port C. -/
  | c
  /-- Port D. -/
  | d
  deriving DecidableEq, Repr

namespace Port

/-- All ports, ascending. -/
def all : List Port := [b, c, d]

/-- The letter of a port. -/
def letter : Port → String
  | b => "B"
  | c => "C"
  | d => "D"

/-- The number of the pin-change interrupt that the pins of a port share. -/
def group : Port → Nat
  | b => 0
  | c => 1
  | d => 2

/-- The number of the pin-change line of a port's first pin. -/
def firstLine (port : Port) : Nat := 8 * port.group

/-- The bit in `PCICR` that enables the interrupt of a port. -/
def enableBit (port : Port) : String := "PCIE" ++ toString port.group

/-- The register that selects which pins of a port raise its interrupt. -/
def maskRegister (port : Port) : String := "PCMSK" ++ toString port.group

/-- The vector of the interrupt of a port. -/
def vector (port : Port) : String := "PCINT" ++ toString port.group ++ "_vect"

/-- How the interrupt of a port is called in comments. -/
def groupLabel (port : Port) : String :=
  "PCINT group " ++ toString port.group ++ " (port " ++ port.letter ++ ")"

/-- Every port is listed. -/
theorem mem_all (port : Port) : port ∈ all := by cases port <;> decide

end Port

/-- A pin of the chip. -/
structure Pin where
  /-- The port that the pin belongs to. -/
  port : Port
  /-- The bit of the port that the pin is. -/
  bit : Fin 8
  deriving DecidableEq, Repr

/-- A text that names no pin. -/
structure InvalidPin where
  /-- The text. -/
  text : String
  deriving DecidableEq, Repr

/-- What is wrong with a text that names no pin. -/
def InvalidPin.message (failure : InvalidPin) : String :=
  "invalid pin identifier " ++ Text.quoted failure.text ++
    ", expected \x60P<port><bit>\x60 with port B, C or D, e.g. \x60PB5\x60"

namespace Pin

/-- The number of the pin-change line of a pin. -/
def line (pin : Pin) : Nat := pin.port.firstLine + pin.bit

/-- Different pins have different lines. -/
theorem line_injective {left right : Pin} (h : left.line = right.line) : left = right := by
  obtain ⟨port, bit⟩ := left
  obtain ⟨port', bit'⟩ := right
  cases port <;> cases port' <;>
    simp_all [line, Port.firstLine, Port.group, Fin.ext_iff] <;> omega

instance : Ord Pin := ⟨compareOn line⟩

instance : Std.TransOrd Pin := inferInstanceAs (Std.TransCmp (compareOn line))

instance : Std.LawfulEqOrd Pin where
  compare_self := Nat.compare_eq_eq.mpr rfl
  eq_of_compare h := line_injective (Nat.compare_eq_eq.mp h)

/-- The name of a pin. -/
def name (pin : Pin) : String := "P" ++ pin.port.letter ++ toString pin.bit.val

/-- All pins, ascending. -/
def all : List Pin := Port.all.flatMap fun port => (List.finRange 8).map fun bit => ⟨port, bit⟩

/-- The pin with a name. -/
def ofName? (text : String) : Option Pin := all.find? fun pin => pin.name == text

/-- The pin with a name, or the reason why there is none. -/
def ofName (text : String) : Except InvalidPin Pin :=
  match ofName? text with
  | some pin => .ok pin
  | none => .error ⟨text⟩

/-- The names that a template may use for a pin, with their meaning for this pin. -/
def symbols (pin : Pin) : List (String × String) :=
  let port := pin.port.letter
  let bit := toString pin.bit.val
  [("pin", pin.name), ("port", port), ("bit", bit), ("ddr_reg", "DDR" ++ port),
    ("port_reg", "PORT" ++ port), ("pin_reg", "PIN" ++ port), ("ddr_bit", "DD" ++ port ++ bit),
    ("port_bit", "PORT" ++ port ++ bit), ("pin_bit", "PIN" ++ port ++ bit),
    ("pcint", "PCINT" ++ toString pin.line)]

/-- Every pin is listed. -/
theorem mem_all (pin : Pin) : pin ∈ all := by
  obtain ⟨port, bit⟩ := pin
  refine List.mem_flatMap.mpr ⟨port, port.mem_all, ?_⟩
  exact List.mem_map_of_mem (List.mem_finRange bit)

/-- No pin is listed twice. -/
theorem nodup_all : all.Nodup := by decide

/-- All pins are listed in ascending order. -/
theorem ascending_all : all.Pairwise fun left right => compare left right = .lt := by decide

/-- The pins of a port are listed bit by bit. -/
theorem filter_port_all (port : Port) :
    (all.filter fun pin => pin.port == port) = (List.finRange 8).map fun bit => ⟨port, bit⟩ := by
  cases port <;> decide

/-- Every pin is found under its name. -/
theorem ofName?_name (pin : Pin) : ofName? pin.name = some pin := by
  obtain ⟨port, bit⟩ := pin
  revert bit
  cases port <;> decide

/-- Different pins have different names. -/
theorem name_injective {left right : Pin} (h : left.name = right.name) : left = right := by
  have hfound := ofName?_name left
  rw [h, ofName?_name right] at hfound
  exact (Option.some.inj hfound).symm

end Pin

end AvrSetup
