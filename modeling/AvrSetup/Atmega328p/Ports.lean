import AvrSetup.Atmega328p.Vocabulary

/-!
# Ports and pin interrupts

The pins themselves, and the interrupts that single pins or groups of them raise.
-/

namespace AvrSetup.Atmega328p

/-- General purpose input and output. -/
def gpio : Descriptor where
  id := .gpio
  name := "General purpose I/O"
  footprint := .pinBound
  needsAllPins := false
  signals := [⟨"GPIO", everyPin⟩]
  fields :=
    [choice .pin "mode" "Mode" ["INPUT", "INPUT_PULLUP", "OUTPUT"] "INPUT",
      shownWhen (.anyOf "mode" ["OUTPUT"])
        (choice .pin "level" "Initial level" ["LOW", "HIGH"] "LOW"),
      shownWhen (.noneOf "mode" ["OUTPUT"]) (flag .pin "pcint" "Pin change interrupt" false)]
  mode := some ⟨"mode", .ofList [("INPUT_PULLUP", "pullup")]⟩
  tables := .ofList []
  signature := .plain "gpio_init"
  interrupts := []
  templates :=
    [perPin "input" [makeInput, clearPort],
      perPin "pullup" [makeInput, setPort],
      onlyWhen (.anyOf "level" ["HIGH"]) (perPin "output" [setPort, makeOutput]),
      onlyWhen (.anyOf "level" ["LOW"]) (perPin "output" [clearPort, makeOutput])]

/-- The external interrupts. -/
def extint : Descriptor where
  id := .extint
  name := "External interrupts"
  footprint := .pinBound
  needsAllPins := false
  signals := [⟨"INT0", portD [2]⟩, ⟨"INT1", portD [3]⟩]
  fields :=
    [choice .pin "sense" "Trigger" ["Low level", "Any change", "Falling edge", "Rising edge"]
        "Falling edge",
      flag .pin "pullup" "Pull-up" false]
  mode := none
  tables :=
    .ofList
      [table "sense"
          [("Low level", "0"), ("Any change", "1"), ("Falling edge", "2"), ("Rising edge", "3")]]
  signature := .plain "extint_init"
  interrupts :=
    [byDefault
        (onSignal "INT0"
            (interrupt "int0" "External interrupt 0" "INT0_vect"
                "The INT0 pin saw the configured trigger" [plain "EIMSK |= _BV(INT0);"] [])),
      byDefault
        (onSignal "INT1"
            (interrupt "int1" "External interrupt 1" "INT1_vect"
                "The INT1 pin saw the configured trigger" [plain "EIMSK |= _BV(INT1);"] []))]
  templates :=
    [perPin "init"
        [makeInput,
          code [text "EICRA |= (", fill "sense", text " << (", fill "signal", text " * 2));"]],
      onlyWhen (.isSet "pullup") (perPin "init" [setPort])]

/-- The pin-change interrupts. -/
def pcint : Descriptor where
  id := .pcint
  name := "Pin change interrupts"
  footprint := .pinBound
  needsAllPins := false
  signals := [⟨"PCINT", everyPin⟩]
  fields := [flag .pin "pullup" "Pull-up" false]
  mode := none
  tables := .ofList []
  signature := .plain "pcint_init"
  interrupts := []
  templates := []

end AvrSetup.Atmega328p
