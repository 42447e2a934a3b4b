import AvrSetup.Atmega328p.Analog
import AvrSetup.Atmega328p.Ports
import AvrSetup.Atmega328p.Serial
import AvrSetup.Atmega328p.Timers
import AvrSetup.Atmega328p.Watchdog

/-!
# The ATmega328P

The chip that is meant when no description is given: its peripherals, in the order in
which their code appears, and the pins that some of them reserve.
-/

namespace AvrSetup.Atmega328p

/-- The rules on shared pins. -/
def rules : List ConflictRule :=
  [⟨portB [2, 3, 4, 5], .spi, [.gpio, .pcint, .timer1, .timer2], "pin is driven by SPI"⟩,
    ⟨portD [0, 1], .uart, [], "pin is driven by USART0"⟩,
    ⟨portC [4, 5], .i2c, [], "pin is driven by the two-wire interface"⟩,
    ⟨portD [5, 6],
      .timer0,
      [.gpio, .comparator, .pcint],
      "pin is driven by a Timer0 compare output"⟩,
    ⟨portB [1, 2], .timer1, [.gpio, .pcint, .spi], "pin is driven by a Timer1 compare output"⟩,
    ⟨portB [3] ++ portD [3],
      .timer2,
      [.gpio, .pcint, .spi, .extint],
      "pin is driven by a Timer2 compare output"⟩,
    ⟨portC [0, 1, 2, 3, 4, 5], .adc, [.gpio, .pcint, .i2c], "pin is sampled by the ADC"⟩,
    ⟨portD [6, 7], .comparator, [.gpio, .timer0], "pin is an analog comparator input"⟩,
    ⟨portD [2, 3], .extint, [.timer2], "pin is an external interrupt input"⟩]

/-- The chip, with its clock at 16 MHz. -/
def device : Device where
  name := "ATmega328P"
  clock := some 16000000
  peripherals :=
    [gpio, uart, spi, i2c, timer0, timer1, timer2, adc, extint, pcint, comparator, watchdog]
  rules := rules

end AvrSetup.Atmega328p
