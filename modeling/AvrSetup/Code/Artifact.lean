import AvrSetup.Device.Descriptor

/-!
# Generated code

What is generated is a set of headers to include, routines that set the chip up, one more
routine that calls all of them, and handlers for interrupts.
-/

namespace AvrSetup

/-- A C function without a result. -/
structure Routine where
  /-- The name of the routine. -/
  name : String
  /-- Its parameter list, as it stands in C. -/
  parameterList : String
  /-- What it is called with. -/
  arguments : List String
  /-- Its body. -/
  lines : List String
  deriving DecidableEq, Repr

namespace Routine

/-- The parameter list of a routine without parameters. -/
def noParameters : String := "void"

/-- Whether a routine has parameters. -/
def takesParameters (routine : Routine) : Bool := routine.parameterList != noParameters

/-- The head of the definition of a routine. -/
def prototype (routine : Routine) : String :=
  "void " ++ routine.name ++ "(" ++ routine.parameterList ++ ")"

/-- A statement that calls a routine. -/
def call (routine : Routine) : String :=
  routine.name ++ "(" ++ String.intercalate ", " routine.arguments ++ ");"

end Routine

/-- A handler for an interrupt. -/
structure Handler where
  /-- The name of the vector of the interrupt. -/
  vector : String
  /-- How the interrupt is called in comments. -/
  label : String
  /-- The body of the handler. -/
  lines : List String
  deriving DecidableEq, Repr

/-- The code that is generated for a configuration. -/
structure Artifact where
  /-- The name of the device. -/
  device : String
  /-- When the code was generated, if that is to be shown. -/
  timestamp : Option String
  /-- The headers to include. -/
  includes : SortedSet String
  /-- The routines that set the chip up. -/
  initRoutines : List Routine
  /-- The routine that calls all others. -/
  aggregate : Routine
  /-- The handlers. -/
  handlers : List Handler
  deriving DecidableEq

namespace Artifact

/-- All routines, the one that calls the others last. -/
def routines (artifact : Artifact) : List Routine := artifact.initRoutines ++ [artifact.aggregate]

/-- The artifact, marked with the time of its generation. -/
def stamped (artifact : Artifact) (timestamp : String) : Artifact :=
  { artifact with timestamp := some timestamp }

end Artifact

end AvrSetup
