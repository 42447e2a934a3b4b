import AvrSetup.Configuration.Basic
import AvrSetup.Json.Number
import AvrSetup.Json.Reader
import AvrSetup.Json.Writer

/-!
# Reading configurations

A configuration is written as a JSON object with a member for each peripheral. The state
of a peripheral is an object with `pins`, `interrupt` or `enabled`, the first of which
decides its shape, and with `settings` and `interrupts` where there are any. Faults are
looked for in the order of the members, and `settings` are read before the rest.
-/

namespace AvrSetup.Configuration

/-- Why a text is no configuration. -/
inductive Failure where
  /-- The text is not JSON. -/
  | json (failure : JsonFailure)
  /-- Something that has to be an object is none. -/
  | expectedObject (place : String)
  /-- Something that has to be a truth value is none. -/
  | expectedBool (place : String)
  /-- Something that has to be a string is none. -/
  | expectedString (place : String)
  /-- A member of the configuration names no peripheral. -/
  | unknownPeripheral (failure : UnknownPeripheral)
  /-- A member of `pins` names no pin. -/
  | invalidPin (failure : InvalidPin)
  /-- A setting has a value that is no text, integer or truth value. -/
  | unsupportedValue (key : String) (value : String)
  /-- A state has none of the members that decide its shape. -/
  | unknownShape (peripheral : Peripheral)
  deriving DecidableEq, Repr

/-- What is wrong with a text that is no configuration. -/
def Failure.message : Failure → String
  | json failure => "malformed JSON: " ++ failure.message
  | expectedObject place => "expected a JSON object for " ++ place
  | expectedBool place => "expected a boolean for " ++ place
  | expectedString place => "expected a string for " ++ place
  | unknownPeripheral failure => failure.message
  | invalidPin failure => failure.message
  | unsupportedValue key value =>
    "unsupported value for setting " ++ Text.quoted key ++ ": " ++ value
  | unknownShape peripheral =>
    "state of " ++ peripheral.name ++
      " must contain one of \"pins\", \"interrupt\" or \"enabled\""

/-- The members of an object. -/
def membersOf (place : String) : Json → Except Failure (List (String × Json))
  | .object members => .ok members
  | _ => .error (.expectedObject place)

/-- The truth value that a JSON value is. -/
def boolOf (place : String) : Json → Except Failure Bool
  | .bool value => .ok value
  | _ => .error (.expectedBool place)

/-- The string that a JSON value is. -/
def stringOf (place : String) : Json → Except Failure String
  | .string text => .ok text
  | _ => .error (.expectedString place)

/-- The value of a setting. -/
def valueOf (key : String) (json : Json) : Except Failure Value :=
  match json with
  | .bool flag => .ok (.bool flag)
  | .string content => .ok (.text content)
  | .number number =>
    match number.toInt64? with
    | some value => .ok (.int value)
    | none => .error (.unsupportedValue key json.compact)
  | _ => .error (.unsupportedValue key json.compact)

/-- Read each member of an object into an entry of a map. -/
def mapOf {α β : Type} [Ord α] [Std.TransOrd α] [Std.LawfulEqOrd α]
    (read : String → Json → Except Failure (α × β)) (members : List (String × Json)) :
    Except Failure (SortedMap α β) :=
  (members.mapM fun (key, value) => read key value).map SortedMap.ofList

/-- The settings that the members of an object are. -/
def settingsOf (members : List (String × Json)) : Except Failure Settings :=
  mapOf (fun key value => (valueOf key value).map (key, ·)) members

/-- The `settings` of a state. -/
def sharedSettings (place : String) (members : List (String × Json)) : Except Failure Settings :=
  match Json.member? "settings" members with
  | none => .ok ∅
  | some json => do settingsOf (← membersOf (place ++ ".settings") json)

/-- The `interrupts` of a state. -/
def switchesOf (place : String) (members : List (String × Json)) :
    Except Failure InterruptSwitches :=
  match Json.member? "interrupts" members with
  | none => .ok ∅
  | some json => do
    let place := place ++ ".interrupts"
    mapOf (fun name value => (boolOf (place ++ "." ++ name) value).map (name, ·))
      (← membersOf place json)

/-- One of the `pins` of a state. -/
def pinOf (place name : String) (json : Json) : Except Failure (Pin × Settings) := do
  let pin ← (Pin.ofName name).mapError .invalidPin
  let settings ← settingsOf (← membersOf (place ++ "." ++ name) json)
  return (pin, settings)

/-- The state of a peripheral. -/
def stateOf (peripheral : Peripheral) (members : List (String × Json)) : Except Failure State := do
  let place := peripheral.name
  let settings ← sharedSettings place members
  if let some json := Json.member? "pins" members then
    let pins ← mapOf (pinOf (place ++ ".pins")) (← membersOf (place ++ ".pins") json)
    return .pinBound pins settings (← switchesOf place members)
  if let some json := Json.member? "interrupt" members then
    return .interruptOnly (← stringOf (place ++ ".interrupt") json) settings
  if let some json := Json.member? "enabled" members then
    let enabled ← boolOf (place ++ ".enabled") json
    return .global enabled settings (← switchesOf place members)
  throw (.unknownShape peripheral)

/-- One member of a configuration. -/
def entryOf (key : String) (json : Json) : Except Failure (Peripheral × State) := do
  let peripheral ← (Peripheral.ofName key).mapError .unknownPeripheral
  let state ← stateOf peripheral (← membersOf key json)
  return (peripheral, state)

/-- The configuration that a JSON value is. -/
def ofJson (json : Json) : Except Failure Configuration := do
  mapOf entryOf (← membersOf "snapshot" json)

/-- Read a configuration. -/
def parse (text : String) : Except Failure Configuration := do
  ofJson (← (Json.parse text).mapError .json)

end AvrSetup.Configuration
