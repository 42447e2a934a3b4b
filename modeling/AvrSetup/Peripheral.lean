import AvrSetup.Text.Quoted

/-!
# The peripherals

The set of peripherals is closed: descriptions and configurations name them by fixed
words, and any other word is refused. Peripherals are ordered as they are listed here.
-/

namespace AvrSetup

/-- A peripheral of the chip. -/
inductive Peripheral where
  /-- General purpose input and output. -/
  | gpio
  /-- The serial port. -/
  | uart
  /-- The serial peripheral interface. -/
  | spi
  /-- The two-wire interface. -/
  | i2c
  /-- The first timer. -/
  | timer0
  /-- The second timer. -/
  | timer1
  /-- The third timer. -/
  | timer2
  /-- The analog to digital converter. -/
  | adc
  /-- The external interrupts. -/
  | extint
  /-- The pin-change interrupts. -/
  | pcint
  /-- The analog comparator. -/
  | comparator
  /-- The watchdog. -/
  | watchdog
  deriving DecidableEq, Repr

/-- A text that names no peripheral. -/
structure UnknownPeripheral where
  /-- The text. -/
  text : String
  deriving DecidableEq, Repr

/-- What is wrong with a text that names no peripheral. -/
def UnknownPeripheral.message (failure : UnknownPeripheral) : String :=
  "unknown peripheral " ++ Text.quoted failure.text

namespace Peripheral

/-- All peripherals, ascending. -/
def all : List Peripheral :=
  [gpio, uart, spi, i2c, timer0, timer1, timer2, adc, extint, pcint, comparator, watchdog]

/-- The place of a peripheral in their order. -/
def rank : Peripheral → Nat
  | gpio => 0
  | uart => 1
  | spi => 2
  | i2c => 3
  | timer0 => 4
  | timer1 => 5
  | timer2 => 6
  | adc => 7
  | extint => 8
  | pcint => 9
  | comparator => 10
  | watchdog => 11

/-- Different peripherals have different places. -/
theorem rank_injective {left right : Peripheral} (h : left.rank = right.rank) : left = right := by
  cases left <;> cases right <;> simp_all [rank]

instance : Ord Peripheral := ⟨compareOn rank⟩

instance : Std.TransOrd Peripheral := inferInstanceAs (Std.TransCmp (compareOn rank))

instance : Std.LawfulEqOrd Peripheral where
  compare_self := Nat.compare_eq_eq.mpr rfl
  eq_of_compare h := rank_injective (Nat.compare_eq_eq.mp h)

/-- The word for a peripheral. -/
def name : Peripheral → String
  | gpio => "gpio"
  | uart => "uart"
  | spi => "spi"
  | i2c => "i2c"
  | timer0 => "timer0"
  | timer1 => "timer1"
  | timer2 => "timer2"
  | adc => "adc"
  | extint => "extint"
  | pcint => "pcint"
  | comparator => "ac"
  | watchdog => "wdt"

/-- The peripheral that a word names. -/
def ofName? (text : String) : Option Peripheral :=
  all.find? fun peripheral => peripheral.name == text

/-- The peripheral that a word names, or the reason why there is none. -/
def ofName (text : String) : Except UnknownPeripheral Peripheral :=
  match ofName? text with
  | some peripheral => .ok peripheral
  | none => .error ⟨text⟩

/-- Whether the pins of a peripheral are pooled for pin-change interrupts instead of being
set up on their own. -/
def feedsPinChange (peripheral : Peripheral) : Bool := peripheral == pcint

/-- Every peripheral is found under its word. -/
theorem ofName?_name (peripheral : Peripheral) : ofName? peripheral.name = some peripheral := by
  cases peripheral <;> decide

/-- Different peripherals have different words. -/
theorem name_injective {left right : Peripheral} (h : left.name = right.name) : left = right := by
  have hfound := ofName?_name left
  rw [h, ofName?_name right] at hfound
  exact (Option.some.inj hfound).symm

end Peripheral

end AvrSetup
