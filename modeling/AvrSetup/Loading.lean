import AvrSetup.Atmega328p.Device
import AvrSetup.Code.Failure
import AvrSetup.Configuration.Reader
import AvrSetup.Device.Reader
import AvrSetup.Files.Basic

/-!
# Reading descriptions and configurations from files

The description of a device and the configuration each stand in a file of their own. Where
no description is given, the one that is built in is meant.
-/

namespace AvrSetup

/-- Why a request fails. -/
inductive RequestFailure where
  /-- A text describes no device. -/
  | device (fault : Device.Fault)
  /-- A file describes no device. -/
  | deviceFile (file : String) (fault : Device.Fault)
  /-- A text is no configuration. -/
  | configuration (failure : Configuration.Failure)
  /-- A file is no configuration. -/
  | configurationFile (file : String) (failure : Configuration.Failure)
  /-- A file cannot be opened. -/
  | unopened (file : String)
  /-- A file cannot be read. -/
  | unread (file : String)
  /-- There is no code for a configuration. -/
  | generation (failure : CodeFailure)
  deriving DecidableEq, Repr

namespace RequestFailure

/-- What is wrong with a file that describes no device, and where. -/
def inFile (file : String) (fault : Device.Fault) : String :=
  "peripheral schema parse error --> " ++ file ++ ":" ++ fault.message

/-- Why a request fails, in words. -/
def message : RequestFailure → String
  | device fault => "cannot load schema: " ++ fault.message
  | deviceFile file fault => "cannot load schema: " ++ inFile file fault
  | configuration failure => "cannot read configuration snapshot: " ++ failure.message
  | configurationFile file failure =>
    "cannot read configuration snapshot " ++ file ++ ": " ++ failure.message
  | unopened file => "failed to open file \x60" ++ file ++ "\x60"
  | unread file => "failed to read from file \x60" ++ file ++ "\x60"
  | generation failure => "generation failed: " ++ failure.message

/-- What lies behind the failure of a request. -/
def causes : RequestFailure → List String
  | device fault => [fault.message]
  | deviceFile file fault => [inFile file fault]
  | configuration failure => [failure.message]
  | configurationFile .. => []
  | unopened _ => []
  | unread _ => []
  | generation failure => [failure.message]

end RequestFailure

variable {m : Type → Type} [Monad m] [FileAccess m]

/-- The text of a file. -/
def readText (file : String) : ExceptT RequestFailure m String := do
  match ← FileAccess.read (m := m) file with
  | .ok text => return text
  | .error .isFolder | .error .noText => throw (.unread file)
  | .error _ => throw (.unopened file)

/-- The device that a file describes. -/
def loadDevice (file : String) : ExceptT RequestFailure m Device := do
  match Device.parse (← readText file) with
  | .ok device => return device
  | .error fault => throw (.deviceFile file fault)

/-- The configuration that a file holds. -/
def loadConfiguration (file : String) : ExceptT RequestFailure m Configuration := do
  match Configuration.parse (← readText file) with
  | .ok configuration => return configuration
  | .error failure => throw (.configurationFile file failure)

/-- Read what is given, and do nothing with it. -/
def rehearse (device configuration : Option String) : ExceptT RequestFailure m Unit := do
  if let some file := device then
    let _ ← loadDevice file
  if let some file := configuration then
    let _ ← loadConfiguration file

end AvrSetup
