import AvrSetup.Code.Generation
import AvrSetup.Diagnosis.Check

/-!
# Sessions

In a session the description of the device may be replaced while an earlier one is still
held. A held description is used until it is released, whatever takes its place meanwhile.
Descriptions are told apart by serial numbers, as two that are equal may still be different
revisions.
-/

namespace AvrSetup

/-- A description of a device, with its number in the order of descriptions. -/
structure Revision where
  /-- The number. -/
  serial : Nat
  /-- The description. -/
  device : Device
  deriving DecidableEq

/-- A configuration in progress, and the descriptions that it may be judged by. -/
structure Session where
  /-- The newest description. -/
  current : Revision
  /-- A description that is held, whether or not it is the newest. -/
  held : Option Revision
  /-- The configuration. -/
  configuration : Configuration
  deriving DecidableEq

namespace Session

/-- A session with a first description and nothing else. -/
def new (device : Device) : Session := ⟨⟨0, device⟩, none, ∅⟩

/-- The description in use: the one that is held, or else the newest. -/
def device (session : Session) : Device := (session.held.getD session.current).device

/-- The session with a newer description. -/
def replace (session : Session) (device : Device) : Session :=
  { session with current := ⟨session.current.serial + 1, device⟩ }

/-- Whether the newest description is the very one that is held, if one is held. -/
def holdsCurrent? (session : Session) : Option Bool :=
  session.held.map fun held => held.serial == session.current.serial

/-- The session with the newest description held. -/
def hold (session : Session) : Session := { session with held := some session.current }

/-- The session with no description held. -/
def release (session : Session) : Session := { session with held := none }

/-- The session with another configuration. -/
def load (session : Session) (configuration : Configuration) : Session :=
  { session with configuration }

/-- The session with the states of another configuration put over its own. -/
def merge (session : Session) (configuration : Configuration) : Session :=
  session.load (session.configuration.overlay configuration)

/-- The session with another state for one peripheral. -/
def put (session : Session) (peripheral : Peripheral) (state : State) : Session :=
  session.load (session.configuration.insert peripheral state)

/-- The state of a peripheral. -/
def state? (session : Session) (peripheral : Peripheral) : Option State :=
  session.configuration.get? peripheral

/-- All that is to be said about the configuration. -/
def check (session : Session) : List Diagnostic := session.device.check session.configuration

/-- The code for the configuration. -/
def generate (session : Session) (clock : Option Nat) : Except CodeFailure Artifact :=
  session.device.generate session.configuration clock

end Session

end AvrSetup
