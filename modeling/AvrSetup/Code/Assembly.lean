import AvrSetup.Code.Expansion
import AvrSetup.Code.Failure

/-!
# Putting expansions together

Lines for the same routine are put together across expansions, if these agree on its
parameters and on what it is called with. Equal handlers for a vector count once, and
unequal ones do not go together. Routines and handlers stand in the order of their first
contribution.
-/

namespace AvrSetup

/-- The routine that a fragment opens. -/
def Fragment.routine (fragment : Fragment) : Routine :=
  ⟨fragment.signature.name, fragment.signature.parameterList, fragment.arguments,
    fragment.lines⟩

/-- Add lines to the routine that they are for, which may be a new one. -/
def Fragment.mergeInto (fragment : Fragment) :
    List Routine → Except CodeFailure (List Routine)
  | [] => .ok [fragment.routine]
  | head :: rest =>
    let new := fragment.routine
    if head.name = new.name then
      if head.parameterList ≠ new.parameterList then
        .error (.conflictingSignature head.name head.parameterList new.parameterList)
      else if head.arguments ≠ new.arguments then
        .error (.conflictingArguments head.name (String.intercalate ", " head.arguments)
          (String.intercalate ", " new.arguments))
      else .ok ({ head with lines := head.lines ++ new.lines } :: rest)
    else (fragment.mergeInto rest).map (head :: ·)

/-- Add a handler for a vector, unless it is there already. -/
def Handler.mergeInto (handler : Handler) (handlers : List Handler) :
    Except CodeFailure (List Handler) :=
  match handlers.find? fun earlier => earlier.vector == handler.vector with
  | some earlier =>
    if earlier.lines = handler.lines then .ok handlers
    else .error (.conflictingHandler handler.vector)
  | none => .ok (handlers ++ [handler])

/-- The expansions put together so far. -/
structure Assembly where
  /-- The headers that they need. -/
  includes : SortedSet String
  /-- Their routines. -/
  routines : List Routine
  /-- Their handlers. -/
  handlers : List Handler

namespace Assembly

/-- Nothing yet. -/
def empty : Assembly := ⟨∅, [], []⟩

/-- The assembly with one more expansion. -/
def add (assembly : Assembly) (expansion : Expansion) : Except CodeFailure Assembly := do
  let routines ← expansion.fragments.foldlM (fun routines fragment =>
    fragment.mergeInto routines) assembly.routines
  let handlers ← expansion.handlers.foldlM (fun handlers handler =>
    handler.mergeInto handlers) assembly.handlers
  return ⟨assembly.includes.union expansion.includes, routines, handlers⟩

/-- The headers that the code needs by itself. -/
def ownIncludes (assembly : Assembly) : List String :=
  ["avr/io.h"] ++
    (if assembly.routines.any Routine.takesParameters then ["stdint.h"] else []) ++
    if assembly.handlers.isEmpty then [] else ["avr/interrupt.h"]

/-- The routine that calls all others, and lets interrupts through if there are handlers. -/
def aggregate (assembly : Assembly) : Routine :=
  ⟨"init_peripherals", Routine.noParameters, [],
    assembly.routines.map Routine.call ++ if assembly.handlers.isEmpty then [] else ["sei();"]⟩

/-- The code for a device. -/
def artifact (assembly : Assembly) (device : String) : Artifact :=
  ⟨device, none, assembly.includes.union (.ofList assembly.ownIncludes), assembly.routines,
    assembly.aggregate, assembly.handlers⟩

end Assembly

/-- The code for a device from the expansions of its peripherals, in order. -/
def assemble (device : String) (expansions : List Expansion) : Except CodeFailure Artifact :=
  (expansions.foldlM Assembly.add Assembly.empty).map fun assembly => assembly.artifact device

end AvrSetup
