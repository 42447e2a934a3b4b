import AvrSetup.Code.Expansion
import AvrSetup.Code.Failure
import AvrSetup.Code.Job

/-!
# From jobs to code

The templates of a job are filled in with its parameters. The frequency of the clock is one
more parameter where it is known and the templates ask for it. The first placeholder that
nothing fills makes the whole expansion fail.
-/

namespace AvrSetup

/-- The name under which templates ask for the frequency of the clock. -/
def clockParameter : String := "clock_hz"

/-- The parameters with the frequency of the clock, if it is known and some template asks for
it. -/
def Parameters.withClock (parameters : Parameters) (clock : Option Nat)
    (templates : List Template) : Parameters :=
  match clock with
  | some frequency =>
    if templates.any fun template => template.mentions clockParameter then
      parameters.insert clockParameter (toString frequency)
    else parameters
  | none => parameters

namespace Descriptor

/-- Fill in a list of templates; the label says which, should that fail. -/
def renderLines (descriptor : Descriptor) (clock : Option Nat) (label : String)
    (templates : List Template) (parameters : Parameters) :
    Except CodeFailure (List String) :=
  let parameters := parameters.withClock clock templates
  templates.mapM fun template =>
    (template.render parameters).mapError (.missingParameter descriptor.id label)

/-- What the init routine of a peripheral is called with. -/
def callArguments (descriptor : Descriptor) (settings : Settings) :
    Except CodeFailure (List String) :=
  descriptor.signature.parameters.mapM fun parameter =>
    match settings.get? parameter.field with
    | some value => .ok value.cText
    | none => .error (.missingArgument descriptor.id parameter.name parameter.field)

/-- Lines for the init routine of a peripheral, or for the plain routine of a name. -/
def fragmentFor (descriptor : Descriptor) (arguments : List String) (routine : Option String)
    (lines : List String) : Fragment :=
  match routine with
  | some name => ⟨.plain name, [], lines⟩
  | none => ⟨descriptor.signature, arguments, lines⟩

/-- The code of one job. -/
def renderJob (descriptor : Descriptor) (clock : Option Nat) (arguments : List String) :
    Job → Except CodeFailure Emission
  | .group set parameters => do
    let lines ← descriptor.renderLines clock set.label set.lines parameters
    return ⟨descriptor.fragmentFor arguments set.routine lines, set.includes, none⟩
  | .interrupt interrupt parameters => do
    let label := "interrupt:" ++ interrupt.name
    let enable ← descriptor.renderLines clock label interrupt.enable parameters
    let handler ← descriptor.renderLines clock label interrupt.handler parameters
    return ⟨descriptor.fragmentFor arguments none enable, [],
      some ⟨interrupt.vector, interrupt.label, handler⟩⟩

/-- The code of a peripheral. A state that is not active has none. -/
def expand (descriptor : Descriptor) (state : State) (clock : Option Nat) :
    Except CodeFailure Expansion :=
  if state.isActive then do
    let arguments ← descriptor.callArguments (descriptor.peripheralSettings state)
    let emissions ← (descriptor.jobs state).mapM (descriptor.renderJob clock arguments)
    return .ofEmissions descriptor.id emissions
  else .ok (.empty descriptor.id)

end Descriptor

end AvrSetup
