import AvrSetup.Atmega328p.Vocabulary

/-!
# Analog peripherals

The converter and the comparator. Both switch off the digital inputs of their pins in
one routine that they share.
-/

namespace AvrSetup.Atmega328p

/-- The analog to digital converter. -/
def adc : Descriptor where
  id := .adc
  name := "Analog-to-digital converter"
  footprint := .pinBound
  needsAllPins := false
  signals :=
    [⟨"ADC0", portC [0]⟩, ⟨"ADC1", portC [1]⟩, ⟨"ADC2", portC [2]⟩, ⟨"ADC3", portC [3]⟩,
      ⟨"ADC4", portC [4]⟩, ⟨"ADC5", portC [5]⟩]
  fields :=
    [choice .peripheral "reference" "Reference" ["AREF", "AVCC", "Internal 1.1V"] "AVCC",
      choice .peripheral "prescaler" "Prescaler" ["2", "4", "8", "16", "32", "64", "128"] "128",
      flag .peripheral "left_adjust" "Left adjust result" false]
  mode := none
  tables :=
    .ofList
      [table "reference"
          [("AREF", "0"), ("AVCC", "_BV(REFS0)"), ("Internal 1.1V", "_BV(REFS1) | _BV(REFS0)")],
        table "prescaler"
          [("2", "_BV(ADPS0)"),
            ("4", "_BV(ADPS1)"),
            ("8", "_BV(ADPS1) | _BV(ADPS0)"),
            ("16", "_BV(ADPS2)"),
            ("32", "_BV(ADPS2) | _BV(ADPS0)"),
            ("64", "_BV(ADPS2) | _BV(ADPS1)"),
            ("128", "_BV(ADPS2) | _BV(ADPS1) | _BV(ADPS0)")],
        table "left_adjust" [("true", "_BV(ADLAR)"), ("false", "0")]]
  signature := .plain "adc_init"
  interrupts :=
    [interrupt "conversion" "ADC conversion complete" "ADC_vect"
        "A conversion has finished and the result is in ADC" [plain "ADCSRA |= _BV(ADIE);"]
        [plain "uint16_t value = ADC;", plain "(void)value;"]]
  templates :=
    [once "init"
        [code [text "ADMUX = ", fill "reference", text " | ", fill "left_adjust", text ";"],
          code [text "ADCSRA = _BV(ADEN) | ", fill "prescaler", text ";"]],
      into "didr_init" (perPin "init" [code [text "DIDR0 |= _BV(", fill "signal", text "D);"]])]

/-- The analog comparator. -/
def comparator : Descriptor where
  id := .comparator
  name := "Analog comparator"
  footprint := .pinBound
  needsAllPins := false
  signals := [⟨"AIN0", portD [6]⟩, ⟨"AIN1", portD [7]⟩]
  fields :=
    [choice .peripheral "edge" "Interrupt mode" ["Toggle", "Falling edge", "Rising edge"] "Toggle",
      flag .peripheral "bandgap" "Bandgap reference on AIN0" false]
  mode := none
  tables :=
    .ofList
      [table "edge"
          [("Toggle", "0"),
            ("Falling edge", "_BV(ACIS1)"),
            ("Rising edge", "_BV(ACIS1) | _BV(ACIS0)")],
        table "bandgap" [("true", "_BV(ACBG)"), ("false", "0")]]
  signature := .plain "ac_init"
  interrupts :=
    [interrupt "compare" "Analog comparator output toggled" "ANALOG_COMP_vect"
        "The comparator output changed as selected by the interrupt mode"
        [plain "ACSR |= _BV(ACIE);"] []]
  templates :=
    [once "init" [code [text "ACSR = ", fill "bandgap", text " | ", fill "edge", text ";"]],
      into "didr_init" (perPin "init" [code [text "DIDR1 |= _BV(", fill "signal", text "D);"]])]

end AvrSetup.Atmega328p
