import AvrSetup.Proofs.Compatibility
import AvrSetup.Proofs.Totality

/-!
# One definition for each routine

Contributions to a routine have to be declared and called alike. Across peripherals that is
checked, and code that would define a routine in two ways is refused. Within a peripheral it
is not: where templates of a peripheral ask for its own routine by name, as if it took no
parameters, the first contribution decides how the routine is declared and called
(`Device.interface_eq_or_refused`). The routine that calls all others has a fixed name, which
nothing keeps a description from using as well (`Device.routines_called`).
-/

namespace AvrSetup

/-! ## Refusals -/

/-- A failure says that a routine is declared or called in two ways. -/
def CodeFailure.IsRoutineConflict (failure : CodeFailure) : Prop :=
  ∃ routine first second, failure = .conflictingSignature routine first second ∨
    failure = .conflictingArguments routine first second

/-- Two contributions to a routine that clash declare or call it in two ways. -/
theorem Routine.isRoutineConflict_of_clash? {first second : Routine} {failure : CodeFailure}
    (hclash : first.clash? second = some failure) : failure.IsRoutineConflict := by
  unfold clash? at hclash
  split at hclash
  · cases hclash
  · split at hclash
    · cases hclash
      exact ⟨_, _, _, Or.inl rfl⟩
    · split at hclash
      · cases hclash
        exact ⟨_, _, _, Or.inr rfl⟩
      · cases hclash

/-- If all handlers go together, expansions are refused only because of their routines. -/
theorem Assembly.isRoutineConflict_of_foldlM_add {expansions : List Expansion}
    {failure : CodeFailure} (hrun : expansions.foldlM add empty = .error failure)
    (hhandlers : Handler.Consistent (expansions.flatMap Expansion.handlers)) :
    failure.IsRoutineConflict := by
  obtain ⟨earlier, piece, later, hpieces, -, other, hother, hclash⟩ :=
    exists_clash_of_foldlM_add hrun
  have hmem {body : Handler} (hbody : .handler body ∈ earlier ++ piece :: later) :
      body ∈ expansions.flatMap Expansion.handlers :=
    Expansion.handler_mem_pieces.mp (hpieces ▸ hbody)
  cases other with
  | fragment first =>
    cases piece with
    | fragment second => exact Routine.isRoutineConflict_of_clash? hclash
    | handler second => cases hclash
  | handler first =>
    cases piece with
    | fragment second => cases hclash
    | handler second =>
      have hfirst := hmem (List.mem_append_left _ hother)
      have hsecond := hmem (List.mem_append_right _ List.mem_cons_self)
      have hnone : first.clash? second = none :=
        Handler.clash?_eq_none_iff.mpr (hhandlers first hfirst second hsecond)
      rw [Piece.clash?, hnone] at hclash
      cases hclash

/-! ## Contributions of a peripheral -/

namespace Descriptor

/-- Some templates of a peripheral ask for its own routine by name, although that takes
parameters. -/
def OverridesItself (descriptor : Descriptor) : Prop :=
  descriptor.signature.parameters ≠ [] ∧
    ∃ set ∈ descriptor.templates, set.routine = some descriptor.signature.name

/-- How a peripheral declares and calls the routine of a name: its own one with parameters,
and any other one without. -/
def interfaceOf (descriptor : Descriptor) (state : State) (name : String) :
    String × List String :=
  if name = descriptor.signature.name then
    (descriptor.signature.parameterList, descriptor.argumentsOf state)
  else (Routine.noParameters, [])

/-- A peripheral declares and calls a routine in one way, unless it overrides this routine. -/
theorem interface_eq_interfaceOf {descriptor : Descriptor} {state : State} {clock : Option Nat}
    (hcoherent : descriptor.IsCoherent) {routine : Routine}
    (h : routine ∈ contributions (descriptor.emissions state clock))
    (hown : descriptor.signature.name = routine.name → ¬descriptor.OverridesItself) :
    routine.interface = descriptor.interfaceOf state routine.name := by
  obtain ⟨emission, hemission, -, rfl⟩ := exists_of_mem_contributions h
  obtain ⟨asked, lines, hfragment, hsets⟩ := fragment_of_mem_emissions hcoherent hemission
  rw [hfragment] at hown ⊢
  cases asked with
  | none => exact (if_pos rfl).symm
  | some name =>
    obtain ⟨set, hset, hroutine⟩ := hsets name rfl
    by_cases hname : descriptor.signature.name = name
    · -- The routine of the peripheral is asked for by name, so it takes no parameters.
      have hplain : descriptor.signature.parameters = [] := by
        by_contra hne
        exact hown hname ⟨hne, set, hset, hname ▸ hroutine⟩
      have harguments : descriptor.argumentsOf state = [] := by
        rw [argumentsOf, argumentsUnder, hplain]
        rfl
      have hparameters : descriptor.signature.parameterList = Routine.noParameters :=
        if_pos hplain
      rw [interfaceOf, harguments, hparameters, ite_self]
      rfl
    · exact (if_neg fun heq => hname heq.symm).symm

end Descriptor

/-- A call without arguments of a routine whose name has no parenthesis is a call of no other
routine. -/
theorem Routine.name_eq_of_call_eq {routine other : Routine} (hname : '(' ∉ other.name.toList)
    (harguments : other.arguments = []) (hcall : routine.call = other.call) :
    routine.name = other.name := by
  have hcharacters := congrArg String.toList hcall
  simp only [call, harguments, String.toList_append, List.append_assoc] at hcharacters
  have hsplit : other.name.toList ++ '(' :: ");".toList =
      routine.name.toList ++ '(' ::
        ((String.intercalate ", " routine.arguments).toList ++ ");".toList) :=
    hcharacters.symm
  -- The first parenthesis of the call ends the name.
  obtain ⟨hsame, -⟩ := (List.append_cons_inj_of_notMem hname (by decide)).mp hsplit
  exact (String.toList_injective hsame).symm

namespace Assembly

variable {assembly : Assembly}

/-- All routines have different names if none of those that are called has the name of the one
that calls them. -/
theorem nodup_name_artifact (hnodup : (assembly.routines.map Routine.name).Nodup)
    (device : String) :
    ((assembly.artifact device).routines.map Routine.name).Nodup ↔
      assembly.aggregate.name ∉ assembly.routines.map Routine.name := by
  rw [Artifact.routines, List.map_append, List.map_singleton, artifact,
    ← List.concat_eq_append, List.nodup_concat]
  exact and_iff_left hnodup

/-- Then the routine that calls them does not call itself. -/
theorem call_notMem_aggregate
    (hfree : assembly.aggregate.name ∉ assembly.routines.map Routine.name) :
    assembly.aggregate.call ∉ assembly.aggregate.lines := by
  have hparenthesis : '(' ∉ "init_peripherals".toList := by decide
  have hsei : "init_peripherals();" ≠ "sei();" := by decide
  intro hmem
  rcases List.mem_append.mp hmem with hcall | hlast
  · obtain ⟨routine, hroutine, heq⟩ := List.mem_map.mp hcall
    have hname : routine.name = assembly.aggregate.name :=
      Routine.name_eq_of_call_eq hparenthesis rfl heq
    exact hfree (hname ▸ List.mem_map_of_mem hroutine)
  · split at hlast
    · cases hlast
    · exact hsei (List.mem_singleton.mp hlast)

end Assembly

namespace Device

variable {device : Device} {configuration : Configuration} {clock : Option Nat}

/-- A peripheral that code is generated for declares or calls its own routine in two ways, as
some of its templates ask for it by name. -/
def OverridesRoutine (device : Device) (configuration : Configuration) (clock : Option Nat)
    (name : String) : Prop :=
  ∃ descriptor state, .peripheral descriptor state ∈ device.stages configuration ∧
    descriptor.signature.name = name ∧ descriptor.OverridesItself ∧
    ∃ first ∈ contributions (descriptor.emissions state clock),
      ∃ second ∈ contributions (descriptor.emissions state clock),
        first.name = name ∧ second.name = name ∧ first.interface ≠ second.interface

/-- All that is contributed at one place to a routine that is not overridden is declared and
called alike. -/
theorem interface_eq_of_stage (hcoherent : device.IsCoherent) {stage : Stage}
    (hstage : stage ∈ device.stages configuration) {first second : Routine}
    (hfirst : first ∈ contributions (device.stageEmissions configuration clock stage))
    (hsecond : second ∈ contributions (device.stageEmissions configuration clock stage))
    (hname : first.name = second.name)
    (hown : ¬device.OverridesRoutine configuration clock first.name) :
    first.interface = second.interface := by
  rcases mem_stages_iff.mp hstage with rfl | ⟨descriptor, hmem, state, -, -, -, rfl⟩
  · -- The emissions for pin changes all go to one routine.
    obtain ⟨_, hleft, -, rfl⟩ := exists_of_mem_contributions hfirst
    obtain ⟨_, hright, -, rfl⟩ := exists_of_mem_contributions hsecond
    obtain ⟨_, -, rfl⟩ := List.mem_map.mp hleft
    obtain ⟨_, -, rfl⟩ := List.mem_map.mp hright
    rfl
  · have hdescriptor := hcoherent.isCoherent descriptor hmem
    by_contra hne
    have hplain : descriptor.signature.name = first.name → ¬descriptor.OverridesItself := by
      intro hsignature hoverrides
      exact hown ⟨descriptor, state, hstage, hsignature, hoverrides, first, hfirst, second,
        hsecond, rfl, hname.symm, hne⟩
    apply hne
    rw [Descriptor.interface_eq_interfaceOf hdescriptor hfirst hplain,
      Descriptor.interface_eq_interfaceOf hdescriptor hsecond (hname ▸ hplain), hname]

/-- All contributions are those of the single places. -/
theorem mem_contributions_emissions {routine : Routine} :
    routine ∈ contributions (device.emissions configuration clock) ↔
      ∃ stage ∈ device.stages configuration,
        routine ∈ contributions (device.stageEmissions configuration clock stage) := by
  rw [contributions, emissions, List.flatMap_assoc, List.mem_flatMap]
  rfl

/-- If the gathered contributions are consistent, then all contributions to a routine that is
not overridden are declared and called alike. -/
theorem interface_eq_of_consistent (hcoherent : device.IsCoherent)
    (hconsistent : Routine.Consistent ((device.stages configuration).flatMap fun stage =>
      Routine.gather (contributions (device.stageEmissions configuration clock stage))))
    {first second : Routine}
    (hfirst : first ∈ contributions (device.emissions configuration clock))
    (hsecond : second ∈ contributions (device.emissions configuration clock))
    (hname : first.name = second.name)
    (hown : ¬device.OverridesRoutine configuration clock first.name) :
    first.interface = second.interface := by
  obtain ⟨stage, hstage, hfirst⟩ := mem_contributions_emissions.mp hfirst
  obtain ⟨other, hother, hsecond⟩ := mem_contributions_emissions.mp hsecond
  obtain ⟨left, hleft, hleftName, opening, hopening, hopeningName, hopeningInterface⟩ :=
    Routine.exists_mem_gather hfirst
  obtain ⟨right, hright, hrightName, starting, hstarting, hstartingName, hstartingInterface⟩ :=
    Routine.exists_mem_gather hsecond
  calc first.interface = opening.interface :=
        interface_eq_of_stage hcoherent hstage hfirst hopening hopeningName.symm hown
    _ = left.interface := hopeningInterface
    _ = right.interface :=
        hconsistent left (List.mem_flatMap.mpr ⟨stage, hstage, hleft⟩) right
          (List.mem_flatMap.mpr ⟨other, hother, hright⟩)
          (hleftName.trans (hname.trans hrightName.symm))
    _ = starting.interface := hstartingInterface.symm
    _ = second.interface :=
        interface_eq_of_stage hcoherent hother hstarting hsecond hstartingName
          (by rwa [hstartingName, ← hname])

/-- If everything has a value and the handlers go together, code is refused only because of
its routines. -/
theorem isRoutineConflict_of_generate {failure : CodeFailure}
    (hgenerate : device.generate configuration clock = .error failure)
    (hsupplied : ∀ stage ∈ device.stages configuration, stage.IsSupplied (clock <|> device.clock))
    (hhandlers : Handler.Consistent
      (handlersOf (device.emissions configuration (clock <|> device.clock)))) :
    failure.IsRoutineConflict := by
  have hexpansions := expansions_eq_ok_iff.mpr ⟨hsupplied, rfl⟩
  rw [← handlers_expansions] at hhandlers
  unfold generate at hgenerate
  rw [hexpansions] at hgenerate
  exact Assembly.isRoutineConflict_of_foldlM_add (map_eq_error_iff.mp hgenerate) hhandlers

/-- Two contributions to a routine are declared and called alike, or the code is refused, unless
a single peripheral contributes to its own routine in two ways. If everything has a value and
the handlers go together, the refusal says that a routine is declared or called in two ways,
and there is none if all contributions agree. -/
theorem interface_eq_or_refused {text : String} (hparse : parse text = .ok device)
    (configuration : Configuration) (clock : Option Nat) :
    let emissions := device.emissions configuration (clock <|> device.clock)
    let suitable := (∀ stage ∈ device.stages configuration,
      stage.IsSupplied (clock <|> device.clock)) ∧ Handler.Consistent (handlersOf emissions)
    (∀ first ∈ contributions emissions, ∀ second ∈ contributions emissions,
      first.name = second.name →
      (first.parameterList = second.parameterList ∧ first.arguments = second.arguments) ∨
        device.OverridesRoutine configuration (clock <|> device.clock) first.name ∨
        ∃ failure, device.generate configuration clock = .error failure ∧
          (suitable → failure.IsRoutineConflict)) ∧
    (suitable → Routine.Consistent (contributions emissions) →
      ∃ artifact, device.generate configuration clock = .ok artifact) := by
  intro emissions suitable
  have hcoherent := isCoherent_of_parse hparse
  constructor
  · intro first hfirst second hsecond hname
    by_cases hown : device.OverridesRoutine configuration (clock <|> device.clock) first.name
    · exact Or.inr (Or.inl hown)
    cases hgenerate : device.generate configuration clock with
    | error failure =>
      have hconflict : suitable → failure.IsRoutineConflict := fun ⟨hsupplied, hhandlers⟩ =>
        isRoutineConflict_of_generate hgenerate hsupplied hhandlers
      exact Or.inr (Or.inr ⟨failure, rfl, hconflict⟩)
    | ok artifact =>
      obtain ⟨-, hconsistent, -, -⟩ := generate_eq_ok_iff.mp hgenerate
      have hinterface : first.interface = second.interface :=
        interface_eq_of_consistent hcoherent hconsistent hfirst hsecond hname hown
      exact Or.inl (Prod.mk.inj hinterface)
  · rintro ⟨hsupplied, hhandlers⟩ hroutines
    exact exists_artifact hsupplied hroutines hhandlers

/-- The two contributions to the routine of the watchdog are declared and called alike. -/
theorem interface_eq_or_refused_watchdog :
    let routines := contributions (watchdogDevice.emissions watchdogConfiguration none)
    routines.map Routine.lines = [["L;"], ["E;"]] ∧
      ∀ first ∈ routines, ∀ second ∈ routines, first.name = second.name →
        first.parameterList = second.parameterList ∧ first.arguments = second.arguments := by
  intro routines
  refine ⟨by rfl, ?_⟩
  intro first hfirst second hsecond hname
  have hown : ¬watchdogDevice.OverridesRoutine watchdogConfiguration none first.name := by
    rintro ⟨descriptor, state, hstage, -, ⟨hparameters, -⟩, -⟩
    rcases mem_stages_iff.mp hstage with hpcint | ⟨_, hmem, _, -, -, -, heq⟩
    · cases hpcint
    · cases heq
      obtain rfl := List.mem_singleton.mp hmem
      exact hparameters rfl
  have hgenerate : ∃ artifact, watchdogDevice.generate watchdogConfiguration none = .ok artifact :=
    ⟨_, by rfl⟩
  obtain ⟨artifact, hgenerate⟩ := hgenerate
  obtain ⟨hcases, -⟩ := interface_eq_or_refused parse_watchdogText watchdogConfiguration none
  rcases hcases first hfirst second hsecond hname with
    hequal | hoverrides | ⟨failure, hfailure, -⟩
  · exact hequal
  · exact absurd hoverrides hown
  · rw [hgenerate] at hfailure
    cases hfailure

/-- A description of a watchdog whose routine takes a parameter. -/
def routineText (routine templates : String) : String :=
  "<device name='m'><peripheral id='wdt' kind='global'>" ++
  "<field key='n' kind='flag' scope='peripheral' default='true'/>" ++
  "<routine name='" ++ routine ++ "'><param name='n' type='uint8_t' field='n'/></routine>" ++
  templates ++ "</peripheral></device>"

/-- The device of such a watchdog. -/
def routineDevice (routine : String) (templates : List TemplateSet) : Device where
  name := "m"
  clock := none
  peripherals :=
    [{ watchdogDescriptor with
       fields := [⟨"n", "n", .flag, .peripheral, .bool true, none⟩]
       signature := ⟨routine, [⟨"n", "uint8_t", "n"⟩]⟩
       interrupts := []
       templates }]
  rules := []

/-- A watchdog with one group of templates that asks for its routine by name. -/
def overriddenText : String :=
  routineText "r"
    ("<templates scope='peripheral' key='init' routine='r'><line>A;</line></templates>" ++
      "<templates scope='peripheral' key='init'><line>B;</line></templates>")

/-- The device of this watchdog. -/
def overriddenDevice : Device :=
  routineDevice "r"
    [⟨.peripheral, "init", none, some "r", [], [.ofSegments [.literal "A;"]]⟩,
      ⟨.peripheral, "init", none, none, [], [.ofSegments [.literal "B;"]]⟩]

/-- Two contributions to a routine that are not declared and called alike are put together
without a word if they come from one peripheral. -/
theorem overridden_routine_accepted :
    parse overriddenText = .ok overriddenDevice ∧
      ∃ artifact, overriddenDevice.generate watchdogConfiguration none = .ok artifact ∧
        contributions (overriddenDevice.emissions watchdogConfiguration none) =
          [⟨"r", "void", [], ["A;"]⟩, ⟨"r", "uint8_t n", ["1"], ["B;"]⟩] ∧
        artifact.initRoutines = [⟨"r", "void", [], ["A;", "B;"]⟩] :=
  ⟨by decide +kernel, _, by rfl, by rfl, by rfl⟩

/-! ## The routine that calls all others -/

/-- The routines have the names of the contributions. -/
theorem mem_map_name_assembly {name : String} :
    name ∈ (device.assembly configuration clock).routines.map Routine.name ↔
      ∃ contribution ∈ contributions (device.emissions configuration clock),
        contribution.name = name := by
  simp only [assembly, Assembly.ofExpansions, routines_expansions, Routine.map_name_gather,
    List.mem_eraseDups, List.map_flatMap, List.mem_flatMap, mem_contributions_emissions]
  simp only [List.mem_map]
  constructor
  · rintro ⟨stage, hstage, contribution, hcontribution, hname⟩
    exact ⟨contribution, ⟨stage, hstage, hcontribution⟩, hname⟩
  · rintro ⟨contribution, ⟨stage, hstage, hcontribution⟩, hname⟩
    exact ⟨stage, hstage, contribution, hcontribution, hname⟩

/-- Every routine is called once, in order, and then interrupts are let through if there are
handlers. The routine that does so has a name and a call of its own exactly if nothing is
contributed to a routine of its name. -/
theorem routines_called {artifact : Artifact}
    (hgenerate : device.generate configuration clock = .ok artifact) :
    (artifact.initRoutines.map Routine.name).Nodup ∧
      artifact.aggregate.name = "init_peripherals" ∧
      artifact.aggregate.lines = artifact.initRoutines.map Routine.call ++
        (if artifact.handlers = [] then [] else ["sei();"]) ∧
      ((artifact.routines.map Routine.name).Nodup ↔
        ∀ contribution ∈ contributions
          (device.emissions configuration (clock <|> device.clock)),
          contribution.name ≠ "init_peripherals") ∧
      ((artifact.routines.map Routine.name).Nodup →
        artifact.aggregate.call ∉ artifact.aggregate.lines) := by
  obtain ⟨-, -, -, rfl⟩ := generate_eq_ok_iff.mp hgenerate
  have hnodup := device.nodup_name_assembly configuration (clock <|> device.clock)
  have hfree := Assembly.nodup_name_artifact hnodup device.name
  refine ⟨hnodup, rfl, ?_, ?_, fun hdistinct => Assembly.call_notMem_aggregate (hfree.mp hdistinct)⟩
  · simp [Assembly.artifact, Assembly.aggregate]
  · rw [hfree, mem_map_name_assembly]
    push Not
    rfl

/-- The routine of the watchdog is called, and has another name than the one that calls it. -/
theorem routines_called_watchdog :
    ∃ artifact, watchdogDevice.generate watchdogConfiguration none = .ok artifact ∧
      (artifact.routines.map Routine.name).Nodup ∧
      artifact.aggregate.lines = ["wdt_init();", "sei();"] := by
  obtain ⟨artifact, hgenerate, hroutines, hhandlers⟩ : ∃ artifact,
      watchdogDevice.generate watchdogConfiguration none = .ok artifact ∧
        artifact.initRoutines = [⟨"wdt_init", "void", [], ["L;", "E;"]⟩] ∧
        artifact.handlers ≠ [] :=
    ⟨_, by rfl, by rfl, List.cons_ne_nil _ _⟩
  obtain ⟨-, -, hlines, hnodup, -⟩ := routines_called hgenerate
  refine ⟨artifact, hgenerate, hnodup.mpr (by decide), ?_⟩
  rw [hlines, hroutines, if_neg hhandlers]
  rfl

/-- A watchdog whose routine has the name of the one that calls all others. -/
def selfCallingText : String :=
  routineText "init_peripherals"
    "<templates scope='peripheral' key='init'><line>B;</line></templates>"

/-- The device of this watchdog. -/
def selfCallingDevice : Device :=
  routineDevice "init_peripherals"
    [⟨.peripheral, "init", none, none, [], [.ofSegments [.literal "B;"]]⟩]

/-- Two routines of one name are generated, and one of them calls that name. -/
theorem aggregate_name_repeated :
    parse selfCallingText = .ok selfCallingDevice ∧
      ∃ artifact, selfCallingDevice.generate watchdogConfiguration none = .ok artifact ∧
        artifact.routines.map Routine.name = ["init_peripherals", "init_peripherals"] ∧
        artifact.aggregate.lines = ["init_peripherals(1);"] :=
  ⟨by decide +kernel, _, by rfl, by rfl, by rfl⟩

end Device

end AvrSetup
