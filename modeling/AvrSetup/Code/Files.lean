import AvrSetup.Code.Artifact
import AvrSetup.Json.Basic

/-!
# Generated files

The code is written as two files: a header with the prototypes of all routines, and a
source file with their bodies and with the handlers. Both are lists of lines, each of which
ends with a line feed.
-/

namespace AvrSetup

/-- The text that consists of some lines. -/
def unlines (lines : List String) : String := String.join (lines.map (· ++ "\n"))

/-- The lines of a C block: the body stands indented between braces. -/
def block (lines : List String) : List String :=
  ["\x7b"] ++ lines.map ("    " ++ ·) ++ ["\x7d"]

/-- A definition in the source file, with a blank line before it. -/
def Routine.definition (routine : Routine) : List String :=
  ["", routine.prototype] ++ block routine.lines

/-- A handler in the source file, with a blank line before it. -/
def Handler.definition (handler : Handler) : List String :=
  ["", "/* " ++ handler.label ++ " */", "ISR(" ++ handler.vector ++ ")"] ++ block handler.lines

namespace Artifact

/-- The name of the header. -/
def headerName : String := "peripherals.h"

/-- The name of the source file. -/
def sourceName : String := "peripherals.c"

/-- The name that keeps the header from being read twice. -/
def guardName : String := "PERIPHGEN_PERIPHERALS_H"

/-- The comments at the head of both files. -/
def banner (artifact : Artifact) : List String :=
  ["/* Generated by periphgen for " ++ artifact.device ++ ". Do not edit. */"] ++
    artifact.timestamp.toList.map fun timestamp => "/* Generated at " ++ timestamp ++ " */"

/-- The lines of the header. -/
def headerLines (artifact : Artifact) : List String :=
  artifact.banner ++
    ["", "#ifndef " ++ guardName, "#define " ++ guardName, ""] ++
    artifact.includes.toList.map (fun file => "#include <" ++ file ++ ">") ++ [""] ++
    artifact.routines.map (fun routine => routine.prototype ++ ";") ++
    ["", "#endif /* " ++ guardName ++ " */"]

/-- The lines of the source file. -/
def sourceLines (artifact : Artifact) : List String :=
  artifact.banner ++ ["", "#include \"" ++ headerName ++ "\""] ++
    artifact.routines.flatMap Routine.definition ++ artifact.handlers.flatMap Handler.definition

/-- The text of the header. -/
def header (artifact : Artifact) : String := unlines artifact.headerLines

/-- The text of the source file. -/
def source (artifact : Artifact) : String := unlines artifact.sourceLines

/-- Both files by their names. -/
def files (artifact : Artifact) : List (String × String) :=
  [(headerName, artifact.header), (sourceName, artifact.source)]

/-- The members of the object that describes the code to other programs. -/
def jsonMembers (artifact : Artifact) : List (String × Json) :=
  [("device", .string artifact.device),
    ("routines", .array (artifact.routines.map fun routine => .object
      [("name", .string routine.name), ("params", .string routine.parameterList),
        ("args", .array (routine.arguments.map .string))])),
    ("handlers", .array (artifact.handlers.map fun handler => .object
      [("vector", .string handler.vector), ("label", .string handler.label)])),
    ("files", .object (artifact.files.map fun (name, text) => (name, .string text)))]

/-- The code for other programs to read. -/
def toJson (artifact : Artifact) : Json := .object artifact.jsonMembers

end Artifact

end AvrSetup
