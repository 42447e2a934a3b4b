import AvrSetup.Code.Artifact

/-!
# What one peripheral contributes

An expansion collects the code of one peripheral from single emissions: lines for a routine,
headers that they need, and a handler. Lines for the same routine are put together in the
order in which they come.
-/

namespace AvrSetup

/-- Lines for one routine. -/
structure Fragment where
  /-- The routine. -/
  signature : Signature
  /-- What the routine is called with. -/
  arguments : List String
  /-- The lines. -/
  lines : List String
  deriving DecidableEq, Repr

/-- The code from one group of templates or for one interrupt. -/
structure Emission where
  /-- The lines, and the routine that they are for. -/
  fragment : Fragment
  /-- The headers that the lines need. -/
  includes : List String
  /-- The handler that goes with the lines. -/
  handler : Option Handler
  deriving DecidableEq, Repr

/-- The code of one peripheral. -/
structure Expansion where
  /-- The peripheral. -/
  peripheral : Peripheral
  /-- The headers that its code needs. -/
  includes : SortedSet String
  /-- Its lines, routine by routine. -/
  fragments : List Fragment
  /-- Its handlers. -/
  handlers : List Handler
  deriving DecidableEq

/-- Put lines behind those for the same routine, or at the end if there are none. The routine
and what it is called with stay as they were first given. -/
def Fragment.addTo (fragment : Fragment) : List Fragment → List Fragment
  | [] => [fragment]
  | head :: rest =>
    if head.signature.name = fragment.signature.name then
      { head with lines := head.lines ++ fragment.lines } :: rest
    else head :: fragment.addTo rest

namespace Expansion

/-- No code. -/
def empty (peripheral : Peripheral) : Expansion := ⟨peripheral, ∅, [], []⟩

/-- Whether there are neither lines nor handlers. -/
def isEmpty (expansion : Expansion) : Bool :=
  expansion.fragments.isEmpty && expansion.handlers.isEmpty

/-- The expansion with one more emission. Routines without lines are not mentioned. -/
def add (expansion : Expansion) (emission : Emission) : Expansion :=
  { expansion with
    includes := expansion.includes.union (.ofList emission.includes)
    fragments :=
      if emission.fragment.lines.isEmpty then expansion.fragments
      else emission.fragment.addTo expansion.fragments
    handlers := expansion.handlers ++ emission.handler.toList }

/-- The expansion that consists of some emissions. -/
def ofEmissions (peripheral : Peripheral) (emissions : List Emission) : Expansion :=
  emissions.foldl add (empty peripheral)

/-- The lines for a routine. -/
def linesOf (expansion : Expansion) (routine : String) : List String :=
  match expansion.fragments.find? fun fragment => fragment.signature.name == routine with
  | some fragment => fragment.lines
  | none => []

end Expansion

end AvrSetup
