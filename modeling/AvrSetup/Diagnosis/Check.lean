import AvrSetup.Diagnosis.SharedPin
import AvrSetup.Diagnosis.Validity

/-!
# All remarks on a configuration

Conflicts come first, then what does not fit the device, then pins that are shared outside
the rules.
-/

namespace AvrSetup

/-- What is to be said about a configuration apart from conflicts. -/
def Device.validate (device : Device) (configuration : Configuration) : List Diagnostic :=
  device.problems configuration ++ device.sharedPins configuration

/-- All that is to be said about a configuration. -/
def Device.check (device : Device) (configuration : Configuration) : List Diagnostic :=
  (device.conflicts configuration).map Conflict.toDiagnostic ++ device.validate configuration

end AvrSetup
