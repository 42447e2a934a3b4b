import AvrSetup.Atmega328p.Vocabulary

/-!
# Serial interfaces

The asynchronous serial port, the serial peripheral interface and the two-wire interface.
-/

namespace AvrSetup.Atmega328p

/-- The serial port. -/
def uart : Descriptor where
  id := .uart
  name := "USART0"
  footprint := .pinBound
  needsAllPins := true
  signals := [⟨"RXD", portD [0]⟩, ⟨"TXD", portD [1]⟩]
  fields :=
    [choice .peripheral "baud" "Baud rate"
        ["2400", "4800", "9600", "14400", "19200", "38400", "57600", "115200"] "9600",
      number .peripheral "data_bits" "Data bits" 5 8 8,
      choice .peripheral "stop_bits" "Stop bits" ["1", "2"] "1",
      choice .peripheral "parity" "Parity" ["None", "Even", "Odd"] "None",
      flag .peripheral "rx_enable" "Receiver" true,
      flag .peripheral "tx_enable" "Transmitter" true]
  mode := none
  tables :=
    .ofList
      [table "data_bits"
          [("5", "0"), ("6", "_BV(UCSZ00)"), ("7", "_BV(UCSZ01)"),
            ("8", "_BV(UCSZ01) | _BV(UCSZ00)")],
        table "stop_bits" [("1", "0"), ("2", "_BV(USBS0)")],
        table "parity" [("None", "0"), ("Even", "_BV(UPM01)"), ("Odd", "_BV(UPM01) | _BV(UPM00)")],
        table "rx_enable" [("true", "_BV(RXEN0)"), ("false", "0")],
        table "tx_enable" [("true", "_BV(TXEN0)"), ("false", "0")]]
  signature := ⟨"uart_init", [⟨"baud", "uint32_t", "baud"⟩]⟩
  interrupts :=
    [interrupt "rx" "USART receive complete" "USART_RX_vect" "A byte has been received into UDR0"
        [plain "UCSR0B |= _BV(RXCIE0);"] [plain "uint8_t data = UDR0;", plain "(void)data;"],
      interrupt "tx" "USART transmit complete" "USART_TX_vect"
        "The transmit shift register is empty and UDR0 holds no new data"
        [plain "UCSR0B |= _BV(TXCIE0);"] [],
      interrupt "udre" "USART data register empty" "USART_UDRE_vect"
        "UDR0 is ready to accept the next byte" [plain "UCSR0B |= _BV(UDRIE0);"]
        [plain "UCSR0B &= ~_BV(UDRIE0);"]]
  templates :=
    [once "init"
        [code
            [text "uint16_t ubrr = (uint16_t)((", fill "clock_hz",
              text "UL / (16UL * baud)) - 1);"],
          plain "UBRR0H = (uint8_t)(ubrr >> 8);",
          plain "UBRR0L = (uint8_t)ubrr;",
          code
            [text "UCSR0C = ", fill "data_bits", text " | ", fill "stop_bits", text " | ",
              fill "parity", text ";"],
          code [text "UCSR0B = ", fill "rx_enable", text " | ", fill "tx_enable", text ";"]]]

/-- The serial peripheral interface. -/
def spi : Descriptor where
  id := .spi
  name := "SPI"
  footprint := .pinBound
  needsAllPins := true
  signals := [⟨"SS", portB [2]⟩, ⟨"MOSI", portB [3]⟩, ⟨"MISO", portB [4]⟩, ⟨"SCK", portB [5]⟩]
  fields :=
    [choice .peripheral "role" "Role" ["Master", "Slave"] "Master",
      shownWhen (.anyOf "role" ["Master"])
        (choice .peripheral "clock_div" "Clock divider" ["4", "16", "64", "128"] "16"),
      choice .peripheral "data_order" "Data order" ["MSB first", "LSB first"] "MSB first",
      choice .peripheral "spi_mode" "SPI mode" ["0", "1", "2", "3"] "0"]
  mode := some ⟨"role", .ofList []⟩
  tables :=
    .ofList
      [table "clock_div"
          [("4", "0"), ("16", "_BV(SPR0)"), ("64", "_BV(SPR1)"), ("128", "_BV(SPR1) | _BV(SPR0)")],
        table "data_order" [("MSB first", "0"), ("LSB first", "_BV(DORD)")],
        table "spi_mode"
          [("0", "0"), ("1", "_BV(CPHA)"), ("2", "_BV(CPOL)"), ("3", "_BV(CPOL) | _BV(CPHA)")]]
  signature := .plain "spi_init"
  interrupts :=
    [interrupt "stc" "SPI serial transfer complete" "SPI_STC_vect" "A serial transfer has completed"
        [plain "SPCR |= _BV(SPIE);"] [plain "uint8_t data = SPDR;", plain "(void)data;"]]
  templates :=
    [once "master"
        [code
            [text "SPCR = _BV(SPE) | _BV(MSTR) | ", fill "clock_div", text " | ", fill "data_order",
              text " | ", fill "spi_mode", text ";"]],
      once "slave"
        [code
            [text "SPCR = _BV(SPE) | ", fill "data_order", text " | ", fill "spi_mode", text ";"]],
      onlyWhen (.anyOf "role" ["Master"]) (perPin "SS" [setPort, makeOutput]),
      onlyWhen (.anyOf "role" ["Master"]) (perPin "MOSI" [makeOutput]),
      onlyWhen (.anyOf "role" ["Master"]) (perPin "SCK" [makeOutput]),
      onlyWhen (.anyOf "role" ["Slave"]) (perPin "MISO" [makeOutput])]

/-- The two-wire interface. -/
def i2c : Descriptor where
  id := .i2c
  name := "Two-wire interface"
  footprint := .pinBound
  needsAllPins := true
  signals := [⟨"SDA", portC [4]⟩, ⟨"SCL", portC [5]⟩]
  fields :=
    [choice .peripheral "speed" "Bus speed" ["100000", "400000"] "100000",
      flag .peripheral "pullups" "Internal pull-ups" true]
  mode := none
  tables := .ofList []
  signature := .plain "i2c_init"
  interrupts :=
    [interrupt "twi" "TWI bus event" "TWI_vect" "The TWI hardware has finished a bus operation"
        [plain "TWCR |= _BV(TWIE);"] [plain "uint8_t status = TWSR & 0xF8;", plain "(void)status;"]]
  templates :=
    [once "init"
        [plain "TWSR = 0;",
          code
            [text "TWBR = (uint8_t)(((", fill "clock_hz", text "UL / ", fill "speed",
              text "UL) - 16) / 2);"],
          plain "TWCR = _BV(TWEN);"],
      onlyWhen (.isSet "pullups") (perPin "init" [setPort])]

end AvrSetup.Atmega328p
