import AvrSetup.Proofs.Routines
import AvrSetup.Proofs.Watching

/-!
# Calls with all arguments

The routine of a peripheral is called with the settings that its parameters stand for, and a
routine that templates ask for by name has no parameters. So all calls have the arguments that
the declarations ask for, with one exception: the routine for pin changes is always called without
arguments, even where a description gives it parameters
(`Device.called_with_all_arguments_iff`).
-/

namespace AvrSetup

namespace Fragment

/-- There is one argument for each parameter of the routine. -/
def HasAllArguments (fragment : Fragment) : Prop :=
  fragment.arguments.length = fragment.signature.parameters.length

instance (fragment : Fragment) : Decidable fragment.HasAllArguments :=
  inferInstanceAs (Decidable (fragment.arguments.length = _))

/-- Fragments that are put together keep the routine and the arguments of the first. -/
theorem exists_of_mem_addTo {added fragment : Fragment} {fragments : List Fragment}
    (h : fragment ∈ added.addTo fragments) :
    ∃ first ∈ added :: fragments, first.signature = fragment.signature ∧
      first.arguments = fragment.arguments := by
  induction fragments with
  | nil => exact ⟨fragment, h, rfl, rfl⟩
  | cons head rest ih =>
    unfold addTo at h
    split at h
    · rcases List.mem_cons.mp h with rfl | hrest
      · exact ⟨head, by simp, rfl, rfl⟩
      · exact ⟨fragment, by simp [hrest], rfl, rfl⟩
    · rcases List.mem_cons.mp h with rfl | hrest
      · exact ⟨fragment, by simp, rfl, rfl⟩
      · obtain ⟨first, hfirst, hsame⟩ := ih hrest
        refine ⟨first, ?_, hsame⟩
        rcases List.mem_cons.mp hfirst with rfl | hmem
        · exact List.mem_cons_self
        · exact List.mem_cons_of_mem _ (List.mem_cons_of_mem _ hmem)

end Fragment

/-- A fragment that comes out has the routine and the arguments of some emission. -/
theorem Expansion.exists_emission_of_mem_fragments {id : Peripheral} {emissions : List Emission}
    {fragment : Fragment} (h : fragment ∈ (ofEmissions id emissions).fragments) :
    ∃ emission ∈ emissions, emission.fragment.signature = fragment.signature ∧
      emission.fragment.arguments = fragment.arguments := by
  induction emissions using List.reverseRecOn generalizing fragment with
  | nil => cases h
  | append_singleton emissions emission ih =>
    have hearlier {other : Fragment} (hother : other ∈ (ofEmissions id emissions).fragments) :
        ∃ first ∈ emissions ++ [emission], first.fragment.signature = other.signature ∧
          first.fragment.arguments = other.arguments := by
      obtain ⟨first, hfirst, hsame⟩ := ih hother
      exact ⟨first, List.mem_append_left _ hfirst, hsame⟩
    rw [ofEmissions_concat, add] at h
    dsimp only at h
    split at h
    · exact hearlier h
    · obtain ⟨first, hfirst, hsignature, harguments⟩ := Fragment.exists_of_mem_addTo h
      rcases List.mem_cons.mp hfirst with rfl | hmem
      · exact ⟨emission, by simp, hsignature, harguments⟩
      · rw [← hsignature, ← harguments]
        exact hearlier hmem

/-- What a peripheral emits has all arguments. -/
theorem Descriptor.hasAllArguments_of_mem_emissions {descriptor : Descriptor} {state : State}
    {clock : Option Nat} {emission : Emission} (h : emission ∈ descriptor.emissions state clock) :
    emission.fragment.HasAllArguments := by
  have hown : (descriptor.argumentsOf state).length = descriptor.signature.parameters.length :=
    List.length_map _
  obtain ⟨job, -, rfl⟩ := List.mem_map.mp h
  cases job with
  | group set parameters =>
    cases hroutine : set.routine with
    | none =>
      simp only [emission, fragmentFor, hroutine]
      exact hown
    | some name =>
      simp only [emission, fragmentFor, hroutine]
      rfl
  | interrupt source parameters => exact hown

namespace Device

variable {device : Device} {configuration : Configuration} {clock : Option Nat}
  {expansions : List Expansion}

/-- The lines that watch pins are contributed. -/
theorem mem_expansions_of_expansion? {expansion : Expansion}
    (hexpansions : device.expansions configuration clock = .ok expansions)
    (hexpansion : PinChange.expansion? device configuration = some expansion) :
    expansion ∈ expansions := by
  obtain ⟨-, rfl⟩ := expansions_eq_ok_iff.mp hexpansions
  have hstage : Stage.pinChange ∈ device.stages configuration := mem_stages_iff.mpr (Or.inl rfl)
  refine List.mem_flatMap.mpr ⟨.pinChange, hstage, ?_⟩
  rw [stageExpansions, hexpansion]
  exact List.mem_singleton.mpr rfl

/-- All lines that are contributed come with all arguments, except those that watch pins. These
come without arguments. -/
theorem hasAllArguments_or_watches
    (hexpansions : device.expansions configuration clock = .ok expansions) {fragment : Fragment}
    (hfragment : fragment ∈ expansions.flatMap Expansion.fragments) :
    fragment.HasAllArguments ∨
      PinChange.expansion? device configuration ≠ none ∧
        fragment.signature = PinChange.routine device ∧ fragment.arguments = [] := by
  obtain ⟨-, rfl⟩ := expansions_eq_ok_iff.mp hexpansions
  obtain ⟨expansion, hexpansion, hfragment⟩ := List.mem_flatMap.mp hfragment
  obtain ⟨stage, -, hstage⟩ := List.mem_flatMap.mp hexpansion
  cases stage with
  | peripheral descriptor state =>
    obtain rfl := List.mem_singleton.mp hstage
    obtain ⟨emission, hemission, hsignature, harguments⟩ :=
      Expansion.exists_emission_of_mem_fragments hfragment
    have hall := Descriptor.hasAllArguments_of_mem_emissions hemission
    rw [Fragment.HasAllArguments, hsignature, harguments] at hall
    exact Or.inl hall
  | pinChange =>
    have hsome := Option.mem_toList.mp hstage
    obtain ⟨-, rfl⟩ := PinChange.expansion?_eq_some_iff.mp hsome
    obtain rfl := List.mem_singleton.mp hfragment
    exact Or.inr ⟨Option.ne_none_iff_exists'.mpr ⟨_, hsome⟩, rfl, rfl⟩

/-- All lines come with all arguments exactly if no pin is watched or the routine for that has no
parameters. -/
theorem forall_hasAllArguments_iff
    (hexpansions : device.expansions configuration clock = .ok expansions) :
    (∀ fragment ∈ expansions.flatMap Expansion.fragments, fragment.HasAllArguments) ↔
      PinChange.expansion? device configuration = none ∨
        (PinChange.routine device).parameters = [] := by
  constructor
  · intro hall
    cases hexpansion : PinChange.expansion? device configuration with
    | none => exact Or.inl rfl
    | some expansion =>
      have hmem := mem_expansions_of_expansion? hexpansions hexpansion
      obtain ⟨-, rfl⟩ := PinChange.expansion?_eq_some_iff.mp hexpansion
      have hnone := hall _ (List.mem_flatMap.mpr ⟨_, hmem, List.mem_singleton.mpr rfl⟩)
      exact Or.inr (List.length_eq_zero_iff.mp hnone.symm)
  · intro hcases fragment hfragment
    rcases hasAllArguments_or_watches hexpansions hfragment with
      hall | ⟨hwatches, hsignature, harguments⟩
    · exact hall
    · rcases hcases with hnone | hparameters
      · exact absurd hnone hwatches
      · rw [Fragment.HasAllArguments, hsignature, harguments, hparameters]
        rfl

/-- The routine that calls all others calls each of them as it is declared: like all lines that
are contributed to it. These lines come with one argument for each parameter, except that lines
which watch pins come without arguments. So there are all arguments exactly if no pin is watched
or the routine for that has no parameters. -/
theorem called_with_all_arguments_iff {artifact : Artifact}
    (hgenerate : device.generate configuration clock = .ok artifact) :
    ∃ expansions, device.expansions configuration (clock <|> device.clock) = .ok expansions ∧
      let fragments := expansions.flatMap Expansion.fragments
      artifact.aggregate.lines = artifact.initRoutines.map Routine.call ++
        (if artifact.handlers = [] then [] else ["sei();"]) ∧
      (∀ routine ∈ artifact.initRoutines,
        (∃ fragment ∈ fragments, fragment.signature.name = routine.name) ∧
        ∀ fragment ∈ fragments, fragment.signature.name = routine.name →
          routine.parameterList = fragment.signature.parameterList ∧
            routine.arguments = fragment.arguments) ∧
      (∀ fragment ∈ fragments, fragment.HasAllArguments ∨
        PinChange.expansion? device configuration ≠ none ∧
          fragment.signature = PinChange.routine device ∧ fragment.arguments = []) ∧
      ((∀ fragment ∈ fragments, fragment.HasAllArguments) ↔
        PinChange.expansion? device configuration = none ∨
          (PinChange.routine device).parameters = []) := by
  obtain ⟨expansions, hexpansions, hassemble⟩ := bind_eq_ok_iff.mp hgenerate
  have hassembled := isAssembledFrom_of_assemble hassemble
  refine ⟨expansions, hexpansions, congrArg Routine.lines hassembled.aggregate, ?_, ?_,
    forall_hasAllArguments_iff hexpansions⟩
  · intro routine hroutine
    exact ⟨hassembled.exists_fragment hroutine, hassembled.interfaces routine hroutine⟩
  · intro fragment hfragment
    exact hasAllArguments_or_watches hexpansions hfragment

/-- A watchdog whose routine has a parameter. -/
def parameterDevice : Device :=
  routineDevice "r" [⟨.peripheral, "init", none, none, [], [.ofSegments [.literal "B;"]]⟩]

/-- The routine of the watchdog is called with its argument. -/
theorem called_with_all_arguments_watchdog :
    ∃ artifact, parameterDevice.generate watchdogConfiguration none = .ok artifact ∧
      artifact.initRoutines.map Routine.prototype = ["void r(uint8_t n)"] ∧
      artifact.aggregate.lines = ["r(1);"] ∧
      ∃ expansions, parameterDevice.expansions watchdogConfiguration none = .ok expansions ∧
        ∀ fragment ∈ expansions.flatMap Expansion.fragments, fragment.HasAllArguments := by
  obtain ⟨artifact, hgenerate, hroutines, hhandlers⟩ : ∃ artifact,
      parameterDevice.generate watchdogConfiguration none = .ok artifact ∧
        artifact.initRoutines = [⟨"r", "uint8_t n", ["1"], ["B;"]⟩] ∧ artifact.handlers = [] :=
    ⟨_, by rfl, by rfl, by rfl⟩
  obtain ⟨expansions, hexpansions, hlines, -, -, hall⟩ := called_with_all_arguments_iff hgenerate
  refine ⟨artifact, hgenerate, ?_, ?_, expansions, hexpansions, hall.mpr (Or.inl (by decide))⟩
  · rw [hroutines]
    decide
  · rw [hlines, hroutines, hhandlers]
    decide

/-- A description of pin-change interrupts whose routine has a parameter. -/
def watchingText : String :=
  "<device name='m'><peripheral id='pcint' kind='pin-bound'>" ++
  "<signal name='S' pins='PB0'/>" ++
  "<field key='n' kind='flag' scope='peripheral' default='true'/>" ++
  "<routine name='pcint_init'><param name='n' type='uint8_t' field='n'/></routine>" ++
  "</peripheral></device>"

/-- The device that has nothing but these. -/
def watchingDevice : Device where
  name := "m"
  clock := none
  peripherals :=
    [{ id := .pcint, name := "pcint", footprint := .pinBound, needsAllPins := false
       signals := [⟨"S", [⟨.b, 0⟩]⟩]
       fields := [⟨"n", "n", .flag, .peripheral, .bool true, none⟩]
       mode := none, tables := ∅
       signature := ⟨"pcint_init", [⟨"n", "uint8_t", "n"⟩]⟩
       interrupts := [], templates := [] }]
  rules := []

/-- A configuration that has one pin watched. -/
def watchingConfiguration : Configuration :=
  SortedMap.ofList [(.pcint, .pinBound (.ofList [(⟨.b, 0⟩, ∅)]) ∅ ∅)]

/-- A routine with a parameter is called without an argument. -/
theorem watching_called_without_arguments :
    parse watchingText = .ok watchingDevice ∧
      ∃ artifact, watchingDevice.generate watchingConfiguration none = .ok artifact ∧
        artifact.initRoutines.map Routine.prototype = ["void pcint_init(uint8_t n)"] ∧
        artifact.aggregate.lines = ["pcint_init();", "sei();"] ∧
        ∃ expansions, watchingDevice.expansions watchingConfiguration none = .ok expansions ∧
          ∃ fragment ∈ expansions.flatMap Expansion.fragments, ¬fragment.HasAllArguments :=
  ⟨by decide +kernel, _, by rfl, by decide, by decide, _, by rfl, by decide⟩

end Device

end AvrSetup
