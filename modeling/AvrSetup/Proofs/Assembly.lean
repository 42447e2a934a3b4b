import AvrSetup.Proofs.Filling
import AvrSetup.Proofs.Gathering

/-!
# When code goes together, and what comes out

Expansions are put together by steps that may fail. This file reduces them to the gathering
of contributions: the steps succeed if the contributions for each routine are declared and
called alike and the handlers for each vector do the same, and then the routines and the
handlers are the gathered ones (`Device.generate_eq_ok_iff`). The detour through the
expansions of single peripherals leaves no trace in the lines for a routine
(`Device.linesUnder_assembly`).
-/

namespace AvrSetup

/-! ## Fragments and handlers -/

namespace Fragment

/-- Fragments are put together like their routines. -/
theorem map_routine_addTo (fragment : Fragment) (fragments : List Fragment) :
    (fragment.addTo fragments).map routine = fragment.routine.addTo (fragments.map routine) := by
  induction fragments with
  | nil => rfl
  | cons head rest ih =>
    by_cases h : head.signature.name = fragment.signature.name
    · simp [addTo, Routine.addTo, routine, h]
    · have hname : ¬head.routine.name = fragment.routine.name := h
      simp only [addTo, if_neg h, List.map_cons, ih, Routine.addTo, if_neg hname]

/-- A fragment can be merged if the routine of its name is declared and called alike. -/
theorem mergeInto_eq_ok_iff {fragment : Fragment} {routines merged : List Routine} :
    fragment.mergeInto routines = .ok merged ↔
      (∀ first, Routine.named? fragment.routine.name routines = some first →
        first.interface = fragment.routine.interface) ∧
      merged = fragment.routine.addTo routines := by
  induction routines generalizing merged with
  | nil => simp [mergeInto, Routine.named?, Routine.addTo, eq_comm]
  | cons head rest ih =>
    by_cases h : head.name = fragment.routine.name
    · have hfirst : Routine.named? fragment.routine.name (head :: rest) = some head := by
        simp [Routine.named?, h]
      simp only [mergeInto, if_pos h, hfirst, Option.some.injEq, forall_eq', Routine.addTo,
        Routine.interface, Prod.mk.injEq]
      split
      · next hparameters => simp [hparameters]
      · next hparameters =>
        split
        · next harguments => simp [harguments]
        · next harguments =>
          simp only [not_not] at hparameters harguments
          simp only [hparameters, harguments, true_and, Except.ok.injEq, and_self]
          exact eq_comm
    · have hfirst : Routine.named? fragment.routine.name (head :: rest) =
          Routine.named? fragment.routine.name rest := by
        simp [Routine.named?, h]
      simp only [mergeInto, if_neg h, hfirst, Routine.addTo, map_eq_ok_iff, ih]
      constructor
      · rintro ⟨_, ⟨hinterface, rfl⟩, rfl⟩
        exact ⟨hinterface, rfl⟩
      · rintro ⟨hinterface, rfl⟩
        exact ⟨_, ⟨hinterface, rfl⟩, rfl⟩

/-- Fragments can be merged if their routines are consistent, and gathering them is all that
happens. -/
theorem foldlM_mergeInto_eq_ok_iff {fragments : List Fragment} {merged : List Routine} :
    fragments.foldlM (fun routines fragment => fragment.mergeInto routines) [] = .ok merged ↔
      Routine.Consistent (fragments.map routine) ∧
        merged = Routine.gather (fragments.map routine) := by
  induction fragments using List.reverseRecOn generalizing merged with
  | nil => simp [pure, Except.pure, Routine.Consistent, Determines, Routine.gather, eq_comm]
  | append_singleton fragments fragment ih =>
    -- The routine that a new fragment meets is declared and called like the first contribution.
    have hfirst : (∀ first, Routine.named? fragment.routine.name
          (Routine.gather (fragments.map routine)) = some first →
          first.interface = fragment.routine.interface) ↔
        ∀ first, ((fragments.map routine).find? fun other =>
          other.name == fragment.routine.name) = some first →
          first.interface = fragment.routine.interface := by
      rw [Routine.named?_gather]
      simp only [Option.map_eq_some_iff, forall_exists_index, and_imp, forall_apply_eq_imp_iff₂]
      rfl
    simp only [List.foldlM_append, List.foldlM_cons, List.foldlM_nil, bind_pure, bind_eq_ok_iff,
      ih, mergeInto_eq_ok_iff, List.map_append, List.map_cons, List.map_nil,
      Routine.gather_concat, Routine.Consistent, determines_concat_iff]
    constructor
    · rintro ⟨_, ⟨hconsistent, rfl⟩, hinterface, rfl⟩
      exact ⟨⟨hconsistent, hfirst.mp hinterface⟩, rfl⟩
    · rintro ⟨⟨hconsistent, hinterface⟩, rfl⟩
      exact ⟨_, ⟨hconsistent, rfl⟩, hfirst.mpr hinterface, rfl⟩

end Fragment

namespace Handler

/-- A handler can be merged if the one for its vector does the same. -/
theorem mergeInto_eq_ok_iff {handler : Handler} {handlers merged : List Handler} :
    handler.mergeInto handlers = .ok merged ↔
      (∀ first, for? handler.vector handlers = some first → first.lines = handler.lines) ∧
        merged = handler.addTo handlers := by
  have hmem : handler.vector ∈ handlers.map Handler.vector ↔
      (for? handler.vector handlers).isSome = true := by
    simp [for?, List.find?_isSome]
  unfold mergeInto addTo
  simp only [hmem]
  unfold for?
  cases handlers.find? fun earlier => earlier.vector == handler.vector with
  | none => simp [eq_comm]
  | some first =>
    by_cases hlines : first.lines = handler.lines
    · simp [hlines, eq_comm]
    · simp [hlines]

/-- Handlers can be merged if they are consistent, and gathering them is all that happens. -/
theorem foldlM_mergeInto_eq_ok_iff {handlers merged : List Handler} :
    handlers.foldlM (fun handlers handler => handler.mergeInto handlers) [] = .ok merged ↔
      Consistent handlers ∧ merged = gather handlers := by
  induction handlers using List.reverseRecOn generalizing merged with
  | nil => simp [pure, Except.pure, Consistent, Determines, gather, eq_comm]
  | append_singleton handlers handler ih =>
    simp only [List.foldlM_append, List.foldlM_cons, List.foldlM_nil, bind_pure, bind_eq_ok_iff,
      ih, mergeInto_eq_ok_iff, gather_concat, Consistent, determines_concat_iff]
    constructor
    · rintro ⟨_, ⟨hconsistent, rfl⟩, hlines, rfl⟩
      rw [for?_gather] at hlines
      exact ⟨⟨hconsistent, hlines⟩, rfl⟩
    · rintro ⟨⟨hconsistent, hlines⟩, rfl⟩
      refine ⟨_, ⟨hconsistent, rfl⟩, ?_, rfl⟩
      rw [for?_gather]
      exact hlines

end Handler

/-! ## Emissions -/

/-- What an emission contributes to routines: nothing if it has no lines. -/
def Emission.contributions (emission : Emission) : List Routine :=
  if emission.fragment.lines.isEmpty then [] else [emission.fragment.routine]

/-- What some emissions contribute to routines, in order. -/
def contributions (emissions : List Emission) : List Routine :=
  emissions.flatMap Emission.contributions

/-- The handlers of some emissions, in order. -/
def handlersOf (emissions : List Emission) : List Handler :=
  emissions.flatMap fun emission => emission.handler.toList

/-- The lines of an emission, as far as they are for the routine of a name. -/
def Emission.linesTo (name : String) (emission : Emission) : List String :=
  if emission.fragment.signature.name = name then emission.fragment.lines else []

/-- Without the emissions that have no lines, no line is lost. -/
theorem linesUnder_contributions (name : String) (emissions : List Emission) :
    Routine.linesUnder name (contributions emissions) =
      emissions.flatMap (Emission.linesTo name) := by
  induction emissions with
  | nil => rfl
  | cons head rest ih =>
    rw [contributions, List.flatMap_cons, Routine.linesUnder_append, ← contributions, ih,
      List.flatMap_cons]
    congr 1
    unfold Emission.contributions Emission.linesTo
    split
    · next hempty => simp [List.isEmpty_iff.mp hempty]
    · exact Routine.linesUnder_singleton name _

/-- A contribution is the routine of an emission that has lines. -/
theorem exists_of_mem_contributions {emissions : List Emission} {routine : Routine}
    (h : routine ∈ contributions emissions) :
    ∃ emission ∈ emissions, emission.fragment.lines ≠ [] ∧ routine = emission.fragment.routine := by
  obtain ⟨emission, hemission, hroutine⟩ := List.mem_flatMap.mp h
  unfold Emission.contributions at hroutine
  split at hroutine
  · cases hroutine
  · next hlines =>
    exact ⟨emission, hemission, fun hnil => hlines (List.isEmpty_iff.mpr hnil),
      List.mem_singleton.mp hroutine⟩

/-- No contribution is without lines. -/
theorem lines_ne_nil_of_mem_contributions {emissions : List Emission} {routine : Routine}
    (h : routine ∈ contributions emissions) : routine.lines ≠ [] := by
  obtain ⟨emission, -, hlines, rfl⟩ := exists_of_mem_contributions h
  exact hlines

namespace Expansion

/-- The routines of an expansion. -/
def routines (expansion : Expansion) : List Routine := expansion.fragments.map Fragment.routine

theorem ofEmissions_concat (id : Peripheral) (emissions : List Emission) (emission : Emission) :
    ofEmissions id (emissions ++ [emission]) = (ofEmissions id emissions).add emission := by
  rw [ofEmissions, List.foldl_append]
  rfl

/-- The routines of an expansion are gathered from its emissions. -/
theorem routines_ofEmissions (id : Peripheral) (emissions : List Emission) :
    (ofEmissions id emissions).routines = Routine.gather (contributions emissions) := by
  induction emissions using List.reverseRecOn with
  | nil => rfl
  | append_singleton emissions emission ih =>
    rw [ofEmissions_concat, contributions, List.flatMap_append, List.flatMap_singleton,
      ← contributions]
    unfold routines add Emission.contributions
    by_cases h : emission.fragment.lines.isEmpty = true
    · rw [if_pos h, if_pos h, List.append_nil]
      exact ih
    · rw [if_neg h, if_neg h, Routine.gather_concat, Fragment.map_routine_addTo, ← routines, ih]

/-- The handlers of an expansion are those of its emissions. -/
theorem handlers_ofEmissions (id : Peripheral) (emissions : List Emission) :
    (ofEmissions id emissions).handlers = handlersOf emissions := by
  induction emissions using List.reverseRecOn with
  | nil => rfl
  | append_singleton emissions emission ih =>
    rw [ofEmissions_concat, handlersOf, List.flatMap_append, List.flatMap_singleton, ← handlersOf,
      ← ih]
    rfl

end Expansion

/-! ## Assemblies -/

namespace Assembly

/-- What comes out when expansions are put together. -/
def ofExpansions (expansions : List Expansion) : Assembly :=
  ⟨expansions.foldl (fun includes expansion => includes.union expansion.includes) ∅,
    Routine.gather (expansions.flatMap Expansion.routines),
    Handler.gather (expansions.flatMap Expansion.handlers)⟩

/-- An expansion is added if its fragments and its handlers can be merged. -/
theorem add_eq_ok_iff {assembly result : Assembly} {expansion : Expansion} :
    assembly.add expansion = .ok result ↔
      expansion.fragments.foldlM (fun routines fragment => fragment.mergeInto routines)
        assembly.routines = .ok result.routines ∧
      expansion.handlers.foldlM (fun handlers handler => handler.mergeInto handlers)
        assembly.handlers = .ok result.handlers ∧
      result.includes = assembly.includes.union expansion.includes := by
  obtain ⟨includes, routines, handlers⟩ := result
  simp only [add, bind_eq_ok_iff]
  constructor
  · rintro ⟨_, hroutines, _, hhandlers, heq⟩
    cases heq
    exact ⟨hroutines, hhandlers, rfl⟩
  · rintro ⟨hroutines, hhandlers, rfl⟩
    exact ⟨_, hroutines, _, hhandlers, rfl⟩

/-- Expansions are put together by merging all fragments and all handlers. -/
theorem foldlM_add_eq_ok_iff_merged {expansions : List Expansion} {assembly : Assembly} :
    expansions.foldlM add empty = .ok assembly ↔
      (expansions.flatMap Expansion.fragments).foldlM
        (fun routines fragment => fragment.mergeInto routines) [] = .ok assembly.routines ∧
      (expansions.flatMap Expansion.handlers).foldlM
        (fun handlers handler => handler.mergeInto handlers) [] = .ok assembly.handlers ∧
      assembly.includes = (ofExpansions expansions).includes := by
  induction expansions using List.reverseRecOn generalizing assembly with
  | nil =>
    obtain ⟨includes, routines, handlers⟩ := assembly
    simp only [List.foldlM_nil, List.flatMap_nil, ofExpansions, List.foldl_nil]
    constructor
    · rintro ⟨⟩
      exact ⟨rfl, rfl, rfl⟩
    · rintro ⟨⟨⟩, ⟨⟩, rfl⟩
      rfl
  | append_singleton expansions expansion ih =>
    simp only [List.foldlM_append, List.foldlM_cons, List.foldlM_nil, bind_pure, bind_eq_ok_iff,
      List.flatMap_append, List.flatMap_singleton, ih, add_eq_ok_iff, ofExpansions,
      List.foldl_append, List.foldl_cons, List.foldl_nil]
    constructor
    · rintro ⟨_, ⟨hroutines, hhandlers, hincludes⟩, haddRoutines, haddHandlers, haddIncludes⟩
      exact ⟨⟨_, hroutines, haddRoutines⟩, ⟨_, hhandlers, haddHandlers⟩, hincludes ▸ haddIncludes⟩
    · rintro ⟨⟨_, hroutines, haddRoutines⟩, ⟨_, hhandlers, haddHandlers⟩, hincludes⟩
      exact ⟨⟨_, _, _⟩, ⟨hroutines, hhandlers, rfl⟩, haddRoutines, haddHandlers, hincludes⟩

/-- Expansions go together if their routines and their handlers do. -/
theorem foldlM_add_eq_ok_iff {expansions : List Expansion} {assembly : Assembly} :
    expansions.foldlM add empty = .ok assembly ↔
      Routine.Consistent (expansions.flatMap Expansion.routines) ∧
        Handler.Consistent (expansions.flatMap Expansion.handlers) ∧
        assembly = ofExpansions expansions := by
  have hroutines : (expansions.flatMap Expansion.fragments).map Fragment.routine =
      expansions.flatMap Expansion.routines := List.map_flatMap
  obtain ⟨includes, routines, handlers⟩ := assembly
  simp only [foldlM_add_eq_ok_iff_merged, Fragment.foldlM_mergeInto_eq_ok_iff,
    Handler.foldlM_mergeInto_eq_ok_iff, hroutines]
  constructor
  · rintro ⟨⟨hconsistent, rfl⟩, ⟨hsame, rfl⟩, rfl⟩
    exact ⟨hconsistent, hsame, rfl⟩
  · rintro ⟨hconsistent, hsame, heq⟩
    cases heq
    exact ⟨⟨hconsistent, rfl⟩, ⟨hsame, rfl⟩, rfl⟩

end Assembly

/-! ## The code for a configuration -/

/-- All that the pin-change interrupts emit, port by port. -/
def PinChange.emissions (device : Device) (configuration : Configuration) : List Emission :=
  (Pool.ofRequests (requests device configuration)).groups.map fun (port, pins) =>
    emission (routine device) port pins

/-- Everything that the code of a contribution asks for has a value. -/
def Stage.IsSupplied (clock : Option Nat) : Stage → Prop
  | .peripheral descriptor state => descriptor.IsSupplied state clock
  | .pinChange => True

namespace Device

/-- All that a contribution emits. -/
def stageEmissions (device : Device) (configuration : Configuration) (clock : Option Nat) :
    Stage → List Emission
  | .peripheral descriptor state => descriptor.emissions state clock
  | .pinChange => PinChange.emissions device configuration

/-- All that is emitted for a configuration, in order. -/
def emissions (device : Device) (configuration : Configuration) (clock : Option Nat) :
    List Emission :=
  (device.stages configuration).flatMap (device.stageEmissions configuration clock)

/-- The expansions of a contribution whose code has all values. -/
def stageExpansions (device : Device) (configuration : Configuration) (clock : Option Nat) :
    Stage → List Expansion
  | .peripheral descriptor state => [.ofEmissions descriptor.id (descriptor.emissions state clock)]
  | .pinChange => (PinChange.expansion? device configuration).toList

/-- The contributions are those of the active peripherals except the pin-change interrupts,
and that of these. -/
theorem mem_stages_iff {device : Device} {configuration : Configuration} {stage : Stage} :
    stage ∈ device.stages configuration ↔ stage = .pinChange ∨
      ∃ descriptor ∈ device.peripherals, ∃ state, descriptor.id ≠ .pcint ∧
        configuration.get? descriptor.id = some state ∧ state.isActive = true ∧
        stage = .peripheral descriptor state := by
  have hstage {descriptor : Descriptor} : descriptor.stage? configuration = some stage ↔
      (descriptor.id = .pcint ∧ stage = .pinChange) ∨ ∃ state, descriptor.id ≠ .pcint ∧
        configuration.get? descriptor.id = some state ∧ state.isActive = true ∧
        stage = .peripheral descriptor state := by
    unfold Descriptor.stage? Peripheral.feedsPinChange
    by_cases h : descriptor.id = .pcint
    · simp only [h, beq_self_eq_true, if_true, Option.some.injEq, true_and, ne_eq,
        not_true_eq_false, false_and, exists_false, or_false]
      exact eq_comm
    · simp only [beq_iff_eq, h, if_false, Option.map_eq_some_iff, Option.filter_eq_some_iff,
        and_assoc, false_and, ne_eq, not_false_eq_true, true_and, false_or]
      exact exists_congr fun state => and_congr_right' (and_congr_right' eq_comm)
  simp only [stages, List.mem_append, List.mem_filterMap, hstage]
  constructor
  · rintro (⟨descriptor, hmem, ⟨-, rfl⟩ | ⟨state, hstate⟩⟩ | hlast)
    · exact Or.inl rfl
    · exact Or.inr ⟨descriptor, hmem, state, hstate⟩
    · split at hlast
      · cases hlast
      · exact Or.inl (List.mem_singleton.mp hlast)
  · rintro (rfl | ⟨descriptor, hmem, hstate⟩)
    · by_cases hany : (device.peripherals.any fun descriptor => descriptor.id.feedsPinChange) = true
      · obtain ⟨descriptor, hmem, hid⟩ := List.any_eq_true.mp hany
        exact Or.inl ⟨descriptor, hmem, Or.inl ⟨beq_iff_eq.mp hid, rfl⟩⟩
      · exact Or.inr (by rw [if_neg hany]; exact List.mem_singleton.mpr rfl)
    · exact Or.inl ⟨descriptor, hmem, Or.inr hstate⟩

/-- Contributions are expanded if everything that their code asks for has a value. -/
theorem expansions_eq_ok_iff {device : Device} {configuration : Configuration}
    {clock : Option Nat} {expansions : List Expansion} :
    device.expansions configuration clock = .ok expansions ↔
      (∀ stage ∈ device.stages configuration, stage.IsSupplied clock) ∧
        expansions = (device.stages configuration).flatMap
          (device.stageExpansions configuration clock) := by
  have hstep : ∀ stage ∈ device.stages configuration, ∀ result,
      device.expandStage configuration clock stage = .ok result ↔
        stage.IsSupplied clock ∧ result = device.stageExpansions configuration clock stage := by
    intro stage hstage result
    rcases mem_stages_iff.mp hstage with rfl | ⟨descriptor, -, state, -, -, hactive, rfl⟩
    · simp [expandStage, stageExpansions, Stage.IsSupplied, pure, Except.pure, eq_comm]
    · simp only [expandStage, bind_eq_ok_iff, Descriptor.expand_eq_ok_iff hactive]
      constructor
      · rintro ⟨_, ⟨hsupplied, rfl⟩, heq⟩
        cases heq
        exact ⟨hsupplied, rfl⟩
      · rintro ⟨hsupplied, rfl⟩
        exact ⟨_, ⟨hsupplied, rfl⟩, rfl⟩
  simp only [Device.expansions, map_eq_ok_iff, mapM_eq_ok_iff hstep]
  constructor
  · rintro ⟨_, ⟨hsupplied, rfl⟩, rfl⟩
    exact ⟨hsupplied, rfl⟩
  · rintro ⟨hsupplied, rfl⟩
    exact ⟨_, ⟨hsupplied, rfl⟩, rfl⟩

/-- The routines of a contribution are gathered from its emissions. -/
theorem routines_stageExpansions (device : Device) (configuration : Configuration)
    (clock : Option Nat) (stage : Stage) :
    (device.stageExpansions configuration clock stage).flatMap Expansion.routines =
      Routine.gather (contributions (device.stageEmissions configuration clock stage)) := by
  cases stage with
  | peripheral descriptor state =>
    rw [stageExpansions, List.flatMap_singleton, Expansion.routines_ofEmissions]
    rfl
  | pinChange =>
    simp only [stageExpansions, stageEmissions, PinChange.emissions, PinChange.expansion?]
    split
    · next hnone =>
      rw [hnone]
      rfl
    · rw [Option.toList_some, List.flatMap_singleton, Expansion.routines_ofEmissions]

/-- The handlers of a contribution are those of its emissions. -/
theorem handlers_stageExpansions (device : Device) (configuration : Configuration)
    (clock : Option Nat) (stage : Stage) :
    (device.stageExpansions configuration clock stage).flatMap Expansion.handlers =
      handlersOf (device.stageEmissions configuration clock stage) := by
  cases stage with
  | peripheral descriptor state =>
    rw [stageExpansions, List.flatMap_singleton, Expansion.handlers_ofEmissions]
    rfl
  | pinChange =>
    simp only [stageExpansions, stageEmissions, PinChange.emissions, PinChange.expansion?]
    split
    · next hnone =>
      rw [hnone]
      rfl
    · rw [Option.toList_some, List.flatMap_singleton, Expansion.handlers_ofEmissions]

/-- The code of all contributions, put together. -/
def assembly (device : Device) (configuration : Configuration) (clock : Option Nat) : Assembly :=
  .ofExpansions ((device.stages configuration).flatMap
    (device.stageExpansions configuration clock))

/-- The routines of all expansions are gathered contribution by contribution. -/
theorem routines_expansions (device : Device) (configuration : Configuration)
    (clock : Option Nat) :
    ((device.stages configuration).flatMap (device.stageExpansions configuration clock)).flatMap
        Expansion.routines =
      (device.stages configuration).flatMap fun stage =>
        Routine.gather (contributions (device.stageEmissions configuration clock stage)) := by
  rw [List.flatMap_assoc]
  simp only [routines_stageExpansions]

/-- The handlers of all expansions are those of all emissions. -/
theorem handlers_expansions (device : Device) (configuration : Configuration)
    (clock : Option Nat) :
    ((device.stages configuration).flatMap (device.stageExpansions configuration clock)).flatMap
        Expansion.handlers =
      handlersOf (device.emissions configuration clock) := by
  rw [List.flatMap_assoc]
  simp only [handlers_stageExpansions]
  rw [emissions, handlersOf, List.flatMap_assoc]
  rfl

/-- Code is generated if everything has a value and the expansions can be put together. -/
theorem generate_eq_ok_iff_assemble {device : Device} {configuration : Configuration}
    {clock : Option Nat} {artifact : Artifact} :
    device.generate configuration clock = .ok artifact ↔
      (∀ stage ∈ device.stages configuration, stage.IsSupplied (clock <|> device.clock)) ∧
        assemble device.name ((device.stages configuration).flatMap
          (device.stageExpansions configuration (clock <|> device.clock))) = .ok artifact := by
  simp only [generate, bind_eq_ok_iff, expansions_eq_ok_iff]
  constructor
  · rintro ⟨_, ⟨hsupplied, rfl⟩, hassemble⟩
    exact ⟨hsupplied, hassemble⟩
  · rintro ⟨hsupplied, hassemble⟩
    exact ⟨_, ⟨hsupplied, rfl⟩, hassemble⟩

/-- Code is generated if everything has a value and the contributions go together. -/
theorem generate_eq_ok_iff {device : Device} {configuration : Configuration}
    {clock : Option Nat} {artifact : Artifact} :
    device.generate configuration clock = .ok artifact ↔
      (∀ stage ∈ device.stages configuration, stage.IsSupplied (clock <|> device.clock)) ∧
      Routine.Consistent ((device.stages configuration).flatMap fun stage => Routine.gather
        (contributions (device.stageEmissions configuration (clock <|> device.clock) stage))) ∧
      Handler.Consistent (handlersOf (device.emissions configuration (clock <|> device.clock))) ∧
      artifact = (device.assembly configuration (clock <|> device.clock)).artifact device.name := by
  rw [generate_eq_ok_iff_assemble, assemble, map_eq_ok_iff]
  simp only [Assembly.foldlM_add_eq_ok_iff, routines_expansions, handlers_expansions]
  constructor
  · rintro ⟨hsupplied, _, ⟨hroutines, hhandlers, rfl⟩, rfl⟩
    exact ⟨hsupplied, hroutines, hhandlers, rfl⟩
  · rintro ⟨hsupplied, hroutines, hhandlers, rfl⟩
    exact ⟨hsupplied, _, ⟨hroutines, hhandlers, rfl⟩, rfl⟩

/-- Code is generated if everything has a value and all that is emitted goes together. -/
theorem exists_artifact {device : Device} {configuration : Configuration} {clock : Option Nat}
    (hsupplied : ∀ stage ∈ device.stages configuration, stage.IsSupplied (clock <|> device.clock))
    (hroutines : Routine.Consistent
      (contributions (device.emissions configuration (clock <|> device.clock))))
    (hhandlers : Handler.Consistent
      (handlersOf (device.emissions configuration (clock <|> device.clock)))) :
    ∃ artifact, device.generate configuration clock = .ok artifact := by
  refine ⟨_, generate_eq_ok_iff.mpr ⟨hsupplied, ?_, hhandlers, rfl⟩⟩
  refine Routine.Consistent.flatMap_gather ?_
  rw [contributions, emissions, List.flatMap_assoc] at hroutines
  exact hroutines

section

variable (device : Device) (configuration : Configuration) (clock : Option Nat)

/-- The routines are all different. -/
theorem nodup_name_assembly :
    ((device.assembly configuration clock).routines.map Routine.name).Nodup :=
  Routine.nodup_map_name_gather _

/-- No routine is without lines. -/
theorem lines_ne_nil_of_mem_assembly {routine : Routine}
    (h : routine ∈ (device.assembly configuration clock).routines) : routine.lines ≠ [] := by
  refine Routine.lines_ne_nil_of_mem_gather (fun contribution hcontribution => ?_) h
  rw [routines_expansions] at hcontribution
  obtain ⟨stage, -, hstage⟩ := List.mem_flatMap.mp hcontribution
  exact Routine.lines_ne_nil_of_mem_gather (fun _ => lines_ne_nil_of_mem_contributions) hstage

/-- The lines for a routine are all lines that are emitted for it, in order. -/
theorem linesUnder_assembly (name : String) :
    Routine.linesUnder name (device.assembly configuration clock).routines =
      (device.emissions configuration clock).flatMap (Emission.linesTo name) := by
  rw [assembly, Assembly.ofExpansions, Routine.linesUnder_gather, routines_expansions,
    Routine.linesUnder_flatMap_gather, ← linesUnder_contributions, contributions, emissions,
    List.flatMap_assoc]
  rfl

/-- The handlers are those that are emitted, one for each vector. -/
theorem handlers_assembly :
    (device.assembly configuration clock).handlers =
      Handler.gather (handlersOf (device.emissions configuration clock)) := by
  rw [assembly, Assembly.ofExpansions, handlers_expansions]

end

end Device

end AvrSetup
