import AvrSetup.Peripheral

/-!
# Why code cannot be generated

Either something that a template or a call needs is not known, or two contributions to the
code do not go together.
-/

namespace AvrSetup

/-- Why code cannot be generated. -/
inductive CodeFailure where
  /-- A group of templates has a placeholder that nothing fills. -/
  | missingParameter (peripheral : Peripheral) (group parameter : String)
  /-- A routine is contributed to with two parameter lists. -/
  | conflictingSignature (routine first second : String)
  /-- A routine is contributed to with two argument lists. -/
  | conflictingArguments (routine first second : String)
  /-- A vector is given two handlers that differ. -/
  | conflictingHandler (vector : String)
  /-- The setting that fills a parameter of an init routine is not there. -/
  | missingArgument (peripheral : Peripheral) (parameter field : String)
  deriving DecidableEq, Repr

open Text in
/-- What stands in the way of the code. -/
def CodeFailure.message : CodeFailure → String
  | missingParameter peripheral group parameter =>
    "template " ++ quoted group ++ " of peripheral " ++ peripheral.name ++
      " references parameter \x7b\x7b" ++ parameter ++ "\x7d\x7d which is never supplied"
  | conflictingSignature routine first second =>
    "routine " ++ routine ++ " is declared with conflicting signatures: (" ++ first ++
      ") and (" ++ second ++ ")"
  | conflictingArguments routine first second =>
    "routine " ++ routine ++ " is called with conflicting arguments: (" ++ first ++
      ") and (" ++ second ++ ")"
  | conflictingHandler vector =>
    "interrupt vector " ++ vector ++ " is given two different handler bodies"
  | missingArgument peripheral parameter field =>
    "routine parameter " ++ quoted parameter ++ " of " ++ peripheral.name ++
      " reads setting " ++ quoted field ++ ", which is not set"

end AvrSetup
