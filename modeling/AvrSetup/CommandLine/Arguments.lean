import AvrSetup.Text.Integer

/-!
# Arguments

The first word among the arguments is the command. Options stand before or after it: those
of all commands in either place, and those of one command after it. An option with a value
is followed by it, or joined to it by an equals sign.
-/

namespace AvrSetup

/-- The order in which peripherals are listed. -/
inductive Sorting where
  /-- In the order of the description. -/
  | described
  /-- By their words. -/
  | alphabetic
  deriving DecidableEq, Repr

/-- What is asked of code generation. -/
structure GenerationRequest where
  /-- The file with the configuration. -/
  configuration : String
  /-- The folder to write to. Without one the code is printed. -/
  folder : Option String
  /-- The frequency of the clock. -/
  clock : Option Nat
  /-- Whether conflicts over pins are accepted. -/
  allowConflicts : Bool
  /-- Whether the code is marked with the time of its generation. -/
  stamp : Bool
  /-- Whether the code is printed for other programs to read. -/
  json : Bool
  deriving DecidableEq, Repr

/-- What is asked of the program. -/
inductive Command where
  /-- Read the input and do nothing with it. -/
  | dryRun (configuration : Option String)
  /-- List the peripherals of the device. -/
  | listPeripherals (sorting : Sorting)
  /-- Say what is to be said about a configuration. -/
  | check (configuration : String) (json : Bool)
  /-- Generate the code for a configuration. -/
  | generate (request : GenerationRequest)
  deriving DecidableEq, Repr

/-- A run of the program. -/
structure Invocation where
  /-- The file with the description of the device. -/
  device : Option String
  /-- What is asked for. -/
  command : Command
  deriving DecidableEq, Repr

/-- Why arguments are refused. -/
inductive UsageFailure where
  /-- There is no command. -/
  | missingCommand
  /-- The command is not known. -/
  | unknownCommand (word : String)
  /-- An argument is not understood. -/
  | unexpectedArgument (argument : String)
  /-- An option lacks its value. -/
  | missingValue (option : String)
  /-- An option has a value that it may not have. -/
  | invalidValue (option value : String)
  /-- An option is given twice. -/
  | repeated (option : String)
  /-- An option that is needed is not given. -/
  | missingOption (option : String)
  /-- Two options exclude each other. -/
  | exclusive (first second : String)
  deriving DecidableEq, Repr

/-- Why arguments are refused, in words. -/
def UsageFailure.message : UsageFailure → String
  | missingCommand => "a subcommand is required"
  | unknownCommand word => "unrecognized subcommand '" ++ word ++ "'"
  | unexpectedArgument argument => "unexpected argument '" ++ argument ++ "'"
  | missingValue option => "a value is required for '--" ++ option ++ "'"
  | invalidValue option value => "invalid value '" ++ value ++ "' for '--" ++ option ++ "'"
  | repeated option => "the argument '--" ++ option ++ "' cannot be used multiple times"
  | missingOption option => "the argument '--" ++ option ++ "' is required"
  | exclusive first second =>
    "the argument '--" ++ first ++ "' cannot be used with '--" ++ second ++ "'"

/-! ## Options -/

/-- The names of the options that may be given. -/
structure OptionNames where
  /-- Those with a value. -/
  valued : List String
  /-- Those without. -/
  flags : List String
  deriving DecidableEq, Repr

/-- Options that have been given. -/
structure GivenOptions where
  /-- Those with a value. -/
  values : List (String × String)
  /-- Those without. -/
  flags : List String
  deriving DecidableEq, Repr

/-- What an argument is by its form. -/
inductive ArgumentForm where
  /-- A word without dashes in front. -/
  | word
  /-- An option, perhaps with its value. -/
  | option (name : String) (value : Option String)
  /-- Letters behind a single dash. -/
  | letters (letters : List Char)
  /-- Two dashes and nothing else: no options stand behind. -/
  | endOfOptions
  deriving DecidableEq, Repr

/-- The form of an argument. A single dash is a word. -/
def ArgumentForm.of (argument : String) : ArgumentForm :=
  match argument.toList with
  | ['-', '-'] => .endOfOptions
  | '-' :: '-' :: text =>
    match text.dropWhile (· != '=') with
    | _ :: value => .option (.ofList (text.takeWhile (· != '='))) (some (.ofList value))
    | [] => .option (.ofList text) none
  | '-' :: letter :: rest => .letters (letter :: rest)
  | _ => .word

/-- The option that a letter is short for. -/
def letterOption : Char → Option String
  | 'q' => some "quiet"
  | 'v' => some "verbose"
  | _ => none

/-- Gather options up to the first word. What comes from the first word on is left over. Behind the
end of the options only words without a use could stand. -/
def OptionNames.gather (names : OptionNames) :
    List String → Except UsageFailure (GivenOptions × List String)
  | [] => .ok (⟨[], []⟩, [])
  | argument :: rest =>
    match ArgumentForm.of argument with
    | .word => .ok (⟨[], []⟩, argument :: rest)
    | .endOfOptions =>
      match rest with
      | [] => .ok (⟨[], []⟩, [])
      | extra :: _ => .error (.unexpectedArgument extra)
    | .letters letters =>
      match letters.mapM letterOption with
      | none => .error (.unexpectedArgument argument)
      | some flags => (names.gather rest).map fun (given, left) =>
        ({ given with flags := flags ++ given.flags }, left)
    | .option name (some value) =>
      if names.valued.contains name then
        (names.gather rest).map fun (given, left) =>
          ({ given with values := (name, value) :: given.values }, left)
      else if names.flags.contains name then .error (.invalidValue name value)
      else .error (.unexpectedArgument argument)
    | .option name none =>
      if names.valued.contains name then
        match rest with
        | [] => .error (.missingValue name)
        | value :: rest =>
          if ArgumentForm.of value = .word then
            (names.gather rest).map fun (given, left) =>
              ({ given with values := (name, value) :: given.values }, left)
          else .error (.missingValue name)
      else if names.flags.contains name then
        (names.gather rest).map fun (given, left) =>
          ({ given with flags := name :: given.flags }, left)
      else .error (.unexpectedArgument argument)

namespace GivenOptions

/-- The value of an option, if it is given. -/
def value? (given : GivenOptions) (name : String) : Except UsageFailure (Option String) :=
  match given.values.filter fun entry => entry.1 == name with
  | [] => .ok none
  | [entry] => .ok (some entry.2)
  | _ => .error (.repeated name)

/-- The value of an option that has to be given. -/
def value (given : GivenOptions) (name : String) : Except UsageFailure String := do
  match ← given.value? name with
  | some value => return value
  | none => throw (.missingOption name)

/-- Whether an option without a value is given. -/
def flag (given : GivenOptions) (name : String) : Except UsageFailure Bool :=
  match given.flags.count name with
  | 0 => .ok false
  | 1 => .ok true
  | _ => .error (.repeated name)

end GivenOptions

/-! ## Commands -/

/-- The options of all commands. -/
def commonOptions : OptionNames := ⟨["schema"], ["quiet", "verbose"]⟩

/-- The options that a command adds. -/
def commandOptions? : String → Option OptionNames
  | "dry-run" => some ⟨["config"], []⟩
  | "ls-periph" => some ⟨["sorting"], []⟩
  | "check" => some ⟨["config"], ["json"]⟩
  | "gen" => some ⟨["config", "out-dir", "clock"], ["deny-conflicts", "stamp", "json"]⟩
  | _ => none

/-- The order that a word names. -/
def Sorting.ofWord? : String → Option Sorting
  | "schema" => some described
  | "alpha" => some alphabetic
  | _ => none

/-- The frequency that a text names. -/
def readClock (text : String) : Except UsageFailure Nat :=
  match Text.readInt64 text with
  | some value =>
    if 0 ≤ value ∧ value ≤ Text.maxNat32 then .ok value.toNat
    else .error (.invalidValue "clock" text)
  | none => .error (.invalidValue "clock" text)

/-- What is asked of code generation. -/
def GenerationRequest.ofOptions (given : GivenOptions) :
    Except UsageFailure GenerationRequest := do
  let configuration ← given.value "config"
  let folder ← given.value? "out-dir"
  let clock ← (← given.value? "clock").mapM readClock
  let denyConflicts ← given.flag "deny-conflicts"
  let stamp ← given.flag "stamp"
  let json ← given.flag "json"
  if json && folder.isSome then throw (.exclusive "json" "out-dir")
  return ⟨configuration, folder, clock, !denyConflicts, stamp, json⟩

/-- The command of a word with its options. -/
def Command.ofOptions (word : String) (given : GivenOptions) : Except UsageFailure Command := do
  match word with
  | "dry-run" => return .dryRun (← given.value? "config")
  | "ls-periph" =>
    let order := (← given.value? "sorting").getD "schema"
    match Sorting.ofWord? order with
    | some sorting => return .listPeripherals sorting
    | none => throw (.invalidValue "sorting" order)
  | "check" => return .check (← given.value "config") (← given.flag "json")
  | "gen" => return .generate (← GenerationRequest.ofOptions given)
  | word => throw (.unknownCommand word)

/-- The run that arguments ask for. An option of all commands that is given both before and
after the command counts as given after it. -/
def Invocation.parse (arguments : List String) : Except UsageFailure Invocation := do
  let (before, rest) ← commonOptions.gather arguments
  match rest with
  | [] => throw .missingCommand
  | word :: rest =>
    match commandOptions? word with
    | none => throw (.unknownCommand word)
    | some names =>
      let all := ⟨names.valued ++ commonOptions.valued, names.flags ++ commonOptions.flags⟩
      let (after, left) ← OptionNames.gather all rest
      if let argument :: _ := left then throw (.unexpectedArgument argument)
      let command ← Command.ofOptions word after
      let early ← before.value? "schema"
      let late ← after.value? "schema"
      return ⟨late <|> early, command⟩

end AvrSetup
