import AvrSetup.Atmega328p.Vocabulary

/-!
# Watchdog

The watchdog timer, which has no pins.
-/

namespace AvrSetup.Atmega328p

/-- The watchdog. -/
def watchdog : Descriptor where
  id := .watchdog
  name := "Watchdog timer"
  footprint := .global
  needsAllPins := false
  signals := []
  fields :=
    [choice .peripheral "timeout" "Timeout"
        ["15MS", "30MS", "60MS", "120MS", "250MS", "500MS", "1S", "2S", "4S", "8S"] "1S",
      choice .peripheral "action" "Action" ["Reset", "Interrupt", "Interrupt and reset"] "Reset"]
  mode := some ⟨"action", .ofList [("Interrupt and reset", "both")]⟩
  tables :=
    .ofList
      [table "timeout"
          [("15MS", "WDTO_15MS"), ("30MS", "WDTO_30MS"), ("60MS", "WDTO_60MS"),
            ("120MS", "WDTO_120MS"), ("250MS", "WDTO_250MS"), ("500MS", "WDTO_500MS"),
            ("1S", "WDTO_1S"), ("2S", "WDTO_2S"), ("4S", "WDTO_4S"), ("8S", "WDTO_8S")]]
  signature := .plain "wdt_init"
  interrupts :=
    [byDefault
        (possibleWhen (.anyOf "action" ["Interrupt", "Interrupt and reset"])
            (interrupt "timeout" "Watchdog timeout" "WDT_vect"
                "The watchdog timer expired in interrupt mode" [] []))]
  templates :=
    [needing ["avr/wdt.h"] (once "reset" [code [text "wdt_enable(", fill "timeout", text ");"]]),
      needing ["avr/wdt.h"]
        (once "interrupt"
            [plain "wdt_reset();",
              plain "WDTCSR = _BV(WDCE) | _BV(WDE);",
              code
                [text "WDTCSR = _BV(WDIE) | ((", fill "timeout",
                  text " & 0x08) ? _BV(WDP3) : 0) | (", fill "timeout", text " & 0x07);"]]),
      needing ["avr/wdt.h"]
        (once "both"
            [plain "wdt_reset();",
              plain "WDTCSR = _BV(WDCE) | _BV(WDE);",
              code
                [text "WDTCSR = _BV(WDIE) | _BV(WDE) | ((",
                  fill "timeout",
                  text " & 0x08) ? _BV(WDP3) : 0) | (",
                  fill "timeout",
                  text " & 0x07);"]])]

end AvrSetup.Atmega328p
