import AvrSetup.Atmega328p.Vocabulary

/-!
# Timers

The three timers. Each selects its templates by its mode, and each compare output has
templates of its own.
-/

namespace AvrSetup.Atmega328p

/-- The first timer. -/
def timer0 : Descriptor where
  id := .timer0
  name := "Timer/Counter0"
  footprint := .pinBound
  needsAllPins := false
  signals := [⟨"OC0A", portD [6]⟩, ⟨"OC0B", portD [5]⟩]
  fields :=
    [choice .peripheral "mode" "Mode" ["Normal", "CTC", "Fast PWM", "Phase correct PWM"] "Normal",
      choice .peripheral "prescaler" "Prescaler" ["1", "8", "64", "256", "1024"] "64",
      shownWhen (.anyOf "mode" ["CTC"]) (number .peripheral "top" "Compare value" 0 255 255),
      shownWhen (.anyOf "mode" ["Fast PWM", "Phase correct PWM"])
        (number .pin "duty" "Duty cycle" 0 255 128)]
  mode := some ⟨"mode", .ofList [("Fast PWM", "pwm_fast"), ("Phase correct PWM", "pwm_phase")]⟩
  tables :=
    .ofList
      [table "prescaler"
          [("1", "_BV(CS00)"), ("8", "_BV(CS01)"), ("64", "_BV(CS01) | _BV(CS00)"),
            ("256", "_BV(CS02)"), ("1024", "_BV(CS02) | _BV(CS00)")]]
  signature := .plain "timer0_init"
  interrupts :=
    [interrupt "overflow" "Timer0 overflow" "TIMER0_OVF_vect" "TCNT0 wrapped around"
        [plain "TIMSK0 |= _BV(TOIE0);"] [],
      interrupt "compare_a" "Timer0 compare match A" "TIMER0_COMPA_vect" "TCNT0 matched OCR0A"
        [plain "TIMSK0 |= _BV(OCIE0A);"] [],
      interrupt "compare_b" "Timer0 compare match B" "TIMER0_COMPB_vect" "TCNT0 matched OCR0B"
        [plain "TIMSK0 |= _BV(OCIE0B);"] []]
  templates :=
    [once "normal" [plain "TCCR0A = 0;", code [text "TCCR0B = ", fill "prescaler", text ";"]],
      once "ctc"
        [plain "TCCR0A = _BV(WGM01);",
          code [text "OCR0A = ", fill "top", text ";"],
          code [text "TCCR0B = ", fill "prescaler", text ";"]],
      once "pwm_fast"
        [plain "TCCR0A = _BV(WGM01) | _BV(WGM00);",
          code [text "TCCR0B = ", fill "prescaler", text ";"]],
      once "pwm_phase"
        [plain "TCCR0A = _BV(WGM00);", code [text "TCCR0B = ", fill "prescaler", text ";"]],
      once "overflow" [plain "TCCR0A = 0;", code [text "TCCR0B = ", fill "prescaler", text ";"]],
      onlyWhen (.anyOf "mode" ["Fast PWM", "Phase correct PWM"])
        (perPin "OC0A"
            [makeOutput,
              plain "TCCR0A |= _BV(COM0A1);",
              code [text "OCR0A = ", fill "duty", text ";"]]),
      onlyWhen (.anyOf "mode" ["CTC"]) (perPin "OC0A" [makeOutput, plain "TCCR0A |= _BV(COM0A0);"]),
      onlyWhen (.anyOf "mode" ["Fast PWM", "Phase correct PWM"])
        (perPin "OC0B"
            [makeOutput,
              plain "TCCR0A |= _BV(COM0B1);",
              code [text "OCR0B = ", fill "duty", text ";"]]),
      onlyWhen (.anyOf "mode" ["CTC"]) (perPin "OC0B" [makeOutput, plain "TCCR0A |= _BV(COM0B0);"])]

/-- The second timer, of 16 bits. -/
def timer1 : Descriptor where
  id := .timer1
  name := "Timer/Counter1"
  footprint := .pinBound
  needsAllPins := false
  signals := [⟨"OC1A", portB [1]⟩, ⟨"OC1B", portB [2]⟩]
  fields :=
    [choice .peripheral "mode" "Mode" ["Normal", "CTC", "Fast PWM", "Phase correct PWM"] "Normal",
      choice .peripheral "prescaler" "Prescaler" ["1", "8", "64", "256", "1024"] "64",
      shownWhen (.anyOf "mode" ["CTC"]) (number .peripheral "top" "Compare value" 0 65535 65535),
      shownWhen (.anyOf "mode" ["Fast PWM", "Phase correct PWM"])
        (number .pin "duty" "Duty cycle" 0 255 128)]
  mode := some ⟨"mode", .ofList [("Fast PWM", "pwm_fast"), ("Phase correct PWM", "pwm_phase")]⟩
  tables :=
    .ofList
      [table "prescaler"
          [("1", "_BV(CS10)"), ("8", "_BV(CS11)"), ("64", "_BV(CS11) | _BV(CS10)"),
            ("256", "_BV(CS12)"), ("1024", "_BV(CS12) | _BV(CS10)")]]
  signature := .plain "timer1_init"
  interrupts :=
    [interrupt "overflow" "Timer1 overflow" "TIMER1_OVF_vect" "TCNT1 wrapped around"
        [plain "TIMSK1 |= _BV(TOIE1);"] [],
      interrupt "compare_a" "Timer1 compare match A" "TIMER1_COMPA_vect" "TCNT1 matched OCR1A"
        [plain "TIMSK1 |= _BV(OCIE1A);"] [],
      interrupt "compare_b" "Timer1 compare match B" "TIMER1_COMPB_vect" "TCNT1 matched OCR1B"
        [plain "TIMSK1 |= _BV(OCIE1B);"] [],
      interrupt "capture" "Timer1 input capture" "TIMER1_CAPT_vect"
        "An input capture event latched TCNT1 into ICR1" [plain "TIMSK1 |= _BV(ICIE1);"]
        [plain "uint16_t captured = ICR1;", plain "(void)captured;"]]
  templates :=
    [once "normal" [plain "TCCR1A = 0;", code [text "TCCR1B = ", fill "prescaler", text ";"]],
      once "ctc"
        [plain "TCCR1A = 0;",
          code [text "OCR1A = ", fill "top", text ";"],
          code [text "TCCR1B = _BV(WGM12) | ", fill "prescaler", text ";"]],
      once "pwm_fast"
        [plain "TCCR1A = _BV(WGM10);",
          code [text "TCCR1B = _BV(WGM12) | ", fill "prescaler", text ";"]],
      once "pwm_phase"
        [plain "TCCR1A = _BV(WGM10);", code [text "TCCR1B = ", fill "prescaler", text ";"]],
      once "overflow" [plain "TCCR1A = 0;", code [text "TCCR1B = ", fill "prescaler", text ";"]],
      onlyWhen (.anyOf "mode" ["Fast PWM", "Phase correct PWM"])
        (perPin "OC1A"
            [makeOutput,
              plain "TCCR1A |= _BV(COM1A1);",
              code [text "OCR1A = ", fill "duty", text ";"]]),
      onlyWhen (.anyOf "mode" ["CTC"]) (perPin "OC1A" [makeOutput, plain "TCCR1A |= _BV(COM1A0);"]),
      onlyWhen (.anyOf "mode" ["Fast PWM", "Phase correct PWM"])
        (perPin "OC1B"
            [makeOutput,
              plain "TCCR1A |= _BV(COM1B1);",
              code [text "OCR1B = ", fill "duty", text ";"]]),
      onlyWhen (.anyOf "mode" ["CTC"]) (perPin "OC1B" [makeOutput, plain "TCCR1A |= _BV(COM1B0);"])]

/-- The third timer. -/
def timer2 : Descriptor where
  id := .timer2
  name := "Timer/Counter2"
  footprint := .pinBound
  needsAllPins := false
  signals := [⟨"OC2A", portB [3]⟩, ⟨"OC2B", portD [3]⟩]
  fields :=
    [choice .peripheral "mode" "Mode" ["Normal", "CTC", "Fast PWM", "Phase correct PWM"] "Normal",
      choice .peripheral "prescaler" "Prescaler" ["1", "8", "32", "64", "128", "256", "1024"] "64",
      shownWhen (.anyOf "mode" ["CTC"]) (number .peripheral "top" "Compare value" 0 255 255),
      shownWhen (.anyOf "mode" ["Fast PWM", "Phase correct PWM"])
        (number .pin "duty" "Duty cycle" 0 255 128)]
  mode := some ⟨"mode", .ofList [("Fast PWM", "pwm_fast"), ("Phase correct PWM", "pwm_phase")]⟩
  tables :=
    .ofList
      [table "prescaler"
          [("1", "_BV(CS20)"),
            ("8", "_BV(CS21)"),
            ("32", "_BV(CS21) | _BV(CS20)"),
            ("64", "_BV(CS22)"),
            ("128", "_BV(CS22) | _BV(CS20)"),
            ("256", "_BV(CS22) | _BV(CS21)"),
            ("1024", "_BV(CS22) | _BV(CS21) | _BV(CS20)")]]
  signature := .plain "timer2_init"
  interrupts :=
    [interrupt "overflow" "Timer2 overflow" "TIMER2_OVF_vect" "TCNT2 wrapped around"
        [plain "TIMSK2 |= _BV(TOIE2);"] [],
      interrupt "compare_a" "Timer2 compare match A" "TIMER2_COMPA_vect" "TCNT2 matched OCR2A"
        [plain "TIMSK2 |= _BV(OCIE2A);"] [],
      interrupt "compare_b" "Timer2 compare match B" "TIMER2_COMPB_vect" "TCNT2 matched OCR2B"
        [plain "TIMSK2 |= _BV(OCIE2B);"] []]
  templates :=
    [once "normal" [plain "TCCR2A = 0;", code [text "TCCR2B = ", fill "prescaler", text ";"]],
      once "ctc"
        [plain "TCCR2A = _BV(WGM21);",
          code [text "OCR2A = ", fill "top", text ";"],
          code [text "TCCR2B = ", fill "prescaler", text ";"]],
      once "pwm_fast"
        [plain "TCCR2A = _BV(WGM21) | _BV(WGM20);",
          code [text "TCCR2B = ", fill "prescaler", text ";"]],
      once "pwm_phase"
        [plain "TCCR2A = _BV(WGM20);", code [text "TCCR2B = ", fill "prescaler", text ";"]],
      once "overflow" [plain "TCCR2A = 0;", code [text "TCCR2B = ", fill "prescaler", text ";"]],
      onlyWhen (.anyOf "mode" ["Fast PWM", "Phase correct PWM"])
        (perPin "OC2A"
            [makeOutput,
              plain "TCCR2A |= _BV(COM2A1);",
              code [text "OCR2A = ", fill "duty", text ";"]]),
      onlyWhen (.anyOf "mode" ["CTC"]) (perPin "OC2A" [makeOutput, plain "TCCR2A |= _BV(COM2A0);"]),
      onlyWhen (.anyOf "mode" ["Fast PWM", "Phase correct PWM"])
        (perPin "OC2B"
            [makeOutput,
              plain "TCCR2A |= _BV(COM2B1);",
              code [text "OCR2B = ", fill "duty", text ";"]]),
      onlyWhen (.anyOf "mode" ["CTC"]) (perPin "OC2B" [makeOutput, plain "TCCR2A |= _BV(COM2B0);"])]

end AvrSetup.Atmega328p
