import AvrSetup.Code.Files
import AvrSetup.Code.Generation
import AvrSetup.CommandLine.Arguments
import AvrSetup.CommandLine.Report
import AvrSetup.Diagnosis.Check
import AvrSetup.Json.Writer
import AvrSetup.Loading

/-!
# Runs of the program

A run reads the files that it is given, and prints or writes what it is asked for. It ends
with an exit code and with what it printed; a failure is reported among the errors. Nothing
is written before everything that can fail has succeeded.
-/

namespace AvrSetup

/-- How a run ends. -/
structure Outcome where
  /-- The exit code. -/
  exitCode : Nat
  /-- What is printed as output. -/
  output : String
  /-- What is printed as errors. -/
  errors : String
  deriving DecidableEq, Repr

namespace Outcome

/-- A success that prints something. -/
def printed (text : String) : Outcome := ⟨0, text, ""⟩

/-- A failure. -/
def failed (report : Report) : Outcome := ⟨1, "", "Error: " ++ report.text ++ "\n"⟩

/-- The outcome with something printed before the rest. -/
def after (outcome : Outcome) (output errors : String) : Outcome :=
  ⟨outcome.exitCode, output ++ outcome.output, errors ++ outcome.errors⟩

/-- The refusal of arguments. -/
def misused (failure : UsageFailure) : Outcome := ⟨2, "", "error: " ++ failure.message ++ "\n"⟩

end Outcome

/-- The report of a failed request. -/
def RequestFailure.report (failure : RequestFailure) : Report := ⟨failure.message, failure.causes⟩

/-! ## What is printed -/

/-- A text with blanks behind it up to a width. -/
def padded (width : Nat) (text : String) : String :=
  text ++ .ofList (List.replicate (width - text.length) ' ')

/-- A line about a peripheral. -/
def Descriptor.summary (descriptor : Descriptor) (width : Nat) : String :=
  let signals := descriptor.signals.map fun signal =>
    signal.name ++ "=" ++ String.intercalate "|" (signal.pins.map Pin.name)
  padded width descriptor.id.name ++ " " ++ padded 9 descriptor.footprint.word ++ " " ++
    descriptor.name ++ " " ++ String.intercalate " " signals

/-- The peripherals of a device in an order. -/
def Device.listing (device : Device) : Sorting → List Descriptor
  | .described => device.peripherals
  | .alphabetic => device.peripherals.mergeSort fun left right =>
    (compare left.id.name right.id.name).isLE

/-- The lines about the peripherals of a device. -/
def Device.summary (device : Device) (sorting : Sorting) : List String :=
  match device.listing sorting with
  | [] => ["periphgen: no peripherals found in schema"]
  | descriptors =>
    let width := (descriptors.map fun descriptor => descriptor.id.name.length).foldl max 0
    descriptors.map fun descriptor => descriptor.summary width

/-- Diagnostics for other programs to read. -/
def diagnosticsJson (diagnostics : List Diagnostic) : Json :=
  .array (diagnostics.map Diagnostic.toJson)

/-- Diagnostics, one on each line. -/
def diagnosticsText (diagnostics : List Diagnostic) : String :=
  unlines (diagnostics.map Diagnostic.text)

/-- What a check prints. It fails if there are errors. -/
def checkOutcome (diagnostics : List Diagnostic) (json : Bool) : Outcome :=
  let outcome : Outcome :=
    if diagnostics.any Diagnostic.isError then .failed (.plain "configuration has errors")
    else .printed ""
  if json then outcome.after ((diagnosticsJson diagnostics).pretty ++ "\n") ""
  else outcome.after "" (diagnosticsText diagnostics)

/-- The code and the diagnostics for other programs to read. -/
def Artifact.report (artifact : Artifact) (diagnostics : List Diagnostic) : Json :=
  .object (artifact.jsonMembers ++ [("diagnostics", diagnosticsJson diagnostics)])

/-- Both files of the code, one after the other. -/
def Artifact.listing (artifact : Artifact) : String :=
  String.intercalate "\n" (artifact.files.map fun (name, text) => "// " ++ name ++ "\n" ++ text)

/-! ## Runs -/

variable {m : Type → Type} [Monad m] [FileAccess m]

/-- The path of a file that has to be there. -/
def existingFile (path : String) : ExceptT Report m String := do
  match ← FileAccess.locate (m := m) path with
  | .error failure => throw ⟨"file does not exist: " ++ path, [failure.message]⟩
  | .ok file =>
    if ← FileAccess.isFile (m := m) file then return file
    else throw (.plain ("not a file: " ++ file))

/-- Carry out a request as a part of something wider. -/
def within {α : Type} (message : String) (request : ExceptT RequestFailure m α) :
    ExceptT Report m α := do
  match ← request.run with
  | .ok value => return value
  | .error failure => throw (failure.report.within message)

/-- The device that a file describes, or the one that is built in. -/
def requestedDevice : Option String → ExceptT Report m Device
  | none => return Atmega328p.device
  | some path => do
    let file ← existingFile path
    within ("could not load schema from " ++ file) (loadDevice file)

/-- The configuration that a file holds. -/
def requestedConfiguration (path : String) : ExceptT Report m Configuration := do
  let file ← existingFile path
  within ("could not load configuration from " ++ file) (loadConfiguration file)

/-- Read the input and say whether it can be read. -/
def runDryRun (device configuration : Option String) : ExceptT Report m Outcome := do
  let device ← device.mapM existingFile
  let configuration ← configuration.mapM existingFile
  match ← (rehearse device configuration : ExceptT RequestFailure m Unit).run with
  | .ok () => return .printed "periphgen: dry run completed successfully\n"
  | .error failure => return .printed ("periphgen: exited unsuccessfully: " ++
      (failure.report.within "could not execute dry run").text ++ "\n")

/-- Write one file. -/
def writeFile (path text : String) : ExceptT Report m Unit := do
  if let .error failure ← FileAccess.write (m := m) path text then
    throw ⟨"failed to create file \x60" ++ path ++ "\x60", [failure.message]⟩

/-- Write the files of the code into a folder. -/
def writeArtifact (folder : String) (artifact : Artifact) : ExceptT Report m Unit := do
  if let .error failure ← FileAccess.createFolders (m := m) folder then
    throw ⟨"failed to create directory \x60" ++ folder ++ "\x60", [failure.message]⟩
  for (name, text) in artifact.files do
    writeFile (inFolder folder name) text

/-- The artifact, marked with the present moment if that is asked for. -/
def stampedIf (stamp : Bool) (artifact : Artifact) : ExceptT Report m Artifact := do
  if stamp then
    let moment ← FileAccess.now (m := m)
    return artifact.stamped moment.text
  else return artifact

/-- Generate the code. The diagnostics are known already. -/
def deliver (device : Device) (configuration : Configuration) (diagnostics : List Diagnostic)
    (request : GenerationRequest) : ExceptT Report m Outcome := do
  let conflicts := diagnostics.countP fun diagnostic => diagnostic.topic == .conflict
  if !request.allowConflicts && conflicts != 0 then
    throw (.plain ("refusing to generate: " ++ toString conflicts ++ " pin conflicts"))
  match device.generate configuration request.clock with
  | .error failure => throw (RequestFailure.generation failure).report
  | .ok artifact =>
    let artifact ← stampedIf request.stamp artifact
    if request.json then return .printed ((artifact.report diagnostics).pretty ++ "\n")
    match request.folder with
    | none => return .printed artifact.listing
    | some folder => do
      writeArtifact folder artifact
      return .printed ""

/-- The outcome of a run that may have failed. -/
def Outcome.ofAttempt (attempt : ExceptT Report m Outcome) : m Outcome := do
  match ← attempt.run with
  | .ok outcome => return outcome
  | .error report => return .failed report

/-- Generate the code, after printing the diagnostics unless they are a part of the output. -/
def runGenerate (device : Device) (configuration : Configuration)
    (request : GenerationRequest) : m Outcome := do
  let diagnostics := device.check configuration
  let outcome ← Outcome.ofAttempt (deliver device configuration diagnostics request)
  return outcome.after "" (if request.json then "" else diagnosticsText diagnostics)

/-- Carry out a command. -/
def Invocation.attempt (invocation : Invocation) : ExceptT Report m Outcome := do
  match invocation.command with
  | .dryRun configuration => runDryRun invocation.device configuration
  | .listPeripherals sorting =>
    let device ← requestedDevice invocation.device
    return .printed (unlines (device.summary sorting))
  | .check path json =>
    let device ← requestedDevice invocation.device
    let configuration ← requestedConfiguration path
    return checkOutcome (device.check configuration) json
  | .generate request =>
    let device ← requestedDevice invocation.device
    let configuration ← requestedConfiguration request.configuration
    (runGenerate device configuration request : m Outcome)

/-- Run the program on its arguments. -/
def run (arguments : List String) : m Outcome := do
  match Invocation.parse arguments with
  | .error failure => return .misused failure
  | .ok invocation => Outcome.ofAttempt invocation.attempt

end AvrSetup
