import AvrSetup.CommandLine.Run
import Std.Time.DateTime.Timestamp

/-!
# The program

The program on real files: it prints what its run prints and exits as its run exits.
-/

namespace AvrSetup

/-- The failure that a number of the operating system stands for. -/
def FileFailure.ofCode? : UInt32 → Option FileFailure
  | 2 => some .notFound
  | 17 => some .alreadyThere
  | 20 => some .notFolder
  | 21 => some .isFolder
  | 36 => some .nameTooLong
  | _ => none

/-- The failure that an error of the operating system stands for. -/
def FileFailure.ofError (failure : IO.Error) : FileFailure :=
  let known := match failure with
    | .noFileOrDirectory _ code _ => ofCode? code
    | .alreadyExists _ code _ => ofCode? code
    | .inappropriateType _ code _ => ofCode? code
    | .invalidArgument _ code _ => ofCode? code
    | _ => none
  known.getD (.other (toString failure))

/-- The result of an operation, or the failure that it ended with. -/
def caught {α : Type} (operation : IO α) : IO (Except FileFailure α) := do
  try return .ok (← operation)
  catch failure => return .error (.ofError failure)

/-- The path of something that is there, without detours. If there is nothing, opening it tells
why. -/
def resolved (path : String) : IO String := do
  try return (← IO.FS.realPath path).toString
  catch failure =>
    discard (IO.FS.Handle.mk path .read)
    throw failure

/-- Create a folder and those that it has to stand in. What stands around it is only looked at if
it cannot be created at once. -/
def makeFolders (path : String) : IO Unit := do
  try IO.FS.createDir path
  catch failure =>
    match FileFailure.ofError failure with
    | .notFound | .alreadyThere => IO.FS.createDirAll path
    | _ => throw failure

/-- The text of a file. What fails after it has been opened leaves it without one. -/
def readFile (path : String) : IO (Except FileFailure String) := do
  match ← caught (IO.FS.Handle.mk path .read) with
  | .error failure => return .error failure
  | .ok handle =>
    match ← caught handle.readBinToEnd with
    | .ok bytes => return (String.fromUTF8? bytes).elim (.error .noText) .ok
    | .error .isFolder => return .error .isFolder
    | .error _ => return .error .noText

/-- The present moment, as the clock shows it. -/
def presentMoment : IO Moment := do
  let timestamp ← Std.Time.Timestamp.now
  return ⟨timestamp.toSecondsSinceUnixEpoch.val.toNat⟩

instance : FileAccess IO where
  locate path := caught (resolved (if path = "" then "." else path))
  isFile path := do
    let file ← IO.FS.realPath path
    return (← file.metadata).type == .file
  read := readFile
  createFolders path := caught do
    if path != "" then makeFolders path
  write path text := caught (IO.FS.writeFile path text)
  now := presentMoment

end AvrSetup

/-- Run the program. -/
def main (arguments : List String) : IO UInt32 := do
  let outcome : AvrSetup.Outcome ← AvrSetup.run arguments
  IO.eprint outcome.errors
  IO.print outcome.output
  return outcome.exitCode.toUInt32
