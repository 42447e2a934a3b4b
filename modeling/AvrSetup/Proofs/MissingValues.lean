import AvrSetup.Proofs.Supply
import Mathlib.Data.List.Find

/-!
# Which value is missing

The code of a state asks for values in a fixed order: first those that the init routine is
called with, then those of the templates for the peripheral, for each pin, and for the
interrupts (`Descriptor.demands`). Each place has its own names with values. This file shows
that an expansion fails exactly if one of them asks for another name, and that the failure is
about the first one that does (`Descriptor.expand_outcome`).
-/

namespace AvrSetup

/-! ## What code asks for -/

/-- Lines that ask for values by their placeholders. -/
structure Demand where
  /-- How the lines are called in messages. -/
  label : String
  /-- The lines, in the order in which they are filled in. -/
  lines : List Template
  /-- The names that have values here, whether or not the clock is known. -/
  names : List String

namespace Demand

/-- Whether a name has a value in some lines: it does so there, or is that of a clock that is
known. -/
def binds (demand : Demand) (clock : Option Nat) (name : String) : Bool :=
  demand.names.contains name || clock.isSome && name == clockParameter

/-- The first placeholder without a value of the first line that has one. -/
def unbound? (demand : Demand) (clock : Option Nat) : Option String :=
  demand.lines.findSome? fun line => line.placeholders.find? fun name => !demand.binds clock name

/-- The first placeholder without a value, with the name of the lines in messages. -/
def unfilled? (clock : Option Nat) (demand : Demand) : Option (String × String) :=
  (demand.unbound? clock).map fun name => (demand.label, name)

end Demand

namespace Descriptor

/-- Whether an interrupt is emitted, also where a signal may reach no pin at all: the one that the
interrupt needs has to reach some. -/
def isEmitted (descriptor : Descriptor) (state : State) (interrupt : Interrupt) : Bool :=
  descriptor.emits state interrupt &&
    interrupt.signal.all fun signal => !(descriptor.pinsOf signal).isEmpty

/-- The names of some settings, as templates ask for them. -/
def namesOf (descriptor : Descriptor) (settings : Settings) : List String :=
  (settings.tabulated descriptor.tables).keys

/-- What the code for an interrupt asks for. -/
def interruptDemand (descriptor : Descriptor) (state : State) (interrupt : Interrupt) : Demand where
  label := "interrupt:" ++ interrupt.name
  lines := interrupt.enable ++ interrupt.handler
  names := descriptor.namesOf (descriptor.peripheralSettings state) ++
    (if interrupt.signal.isSome then Parameters.pinNames else []) ++ ["vector", "label"]

/-- What the code of a state asks for: the templates chosen for the peripheral, those chosen for
each pin that is set up, and the emitted interrupts. -/
def demands (descriptor : Descriptor) (state : State) : List Demand :=
  let shared := descriptor.peripheralSettings state
  ((descriptor.chosen .peripheral (descriptor.sharedKeys state shared) shared).map fun set =>
      ⟨set.label, set.lines, descriptor.namesOf shared⟩) ++
    ((descriptor.pinsInUse state).flatMap fun use =>
      let own := descriptor.pinSettings shared use.2.2
      (descriptor.chosen .pin (descriptor.pinKeys use.1 own) own).map fun set =>
        ⟨set.label, set.lines, descriptor.namesOf own ++ Parameters.pinNames⟩) ++
    (descriptor.interrupts.filter (descriptor.isEmitted state)).map
      (descriptor.interruptDemand state)

/-- The first parameter of the init routine that has no setting. -/
def unsetParameter? (descriptor : Descriptor) (state : State) : Option Parameter :=
  descriptor.signature.parameters.find? fun parameter =>
    !(descriptor.peripheralSettings state).contains parameter.field

/-- The first placeholder without a value in the code of a state, with the name of its lines in
messages. -/
def unfilled? (descriptor : Descriptor) (state : State) (clock : Option Nat) :
    Option (String × String) :=
  (descriptor.demands state).findSome? (Demand.unfilled? clock)

end Descriptor

/-! ## Jobs that fail -/

namespace Job

/-- How a job is called in messages. -/
def label : Job → String
  | group set _ => set.label
  | interrupt source _ => "interrupt:" ++ source.name

/-- The lines of a job, in the order in which they are filled in. -/
def lines : Job → List Template
  | group set _ => set.lines
  | interrupt source _ => source.enable ++ source.handler

/-- What the lines of a job are filled in with. -/
def parameters : Job → Parameters
  | group _ parameters => parameters
  | interrupt _ parameters => parameters

/-- The first placeholder of a job that has no parameter, with the name of the job in messages. -/
def unfilled? (clock : Option Nat) (job : Job) : Option (String × String) :=
  (job.lines.findSome? (job.parameters.clocked clock).unfilled?).map fun name => (job.label, name)

end Job

/-- Lines have no unfilled placeholder if each of them is filled. -/
theorem Parameters.findSome?_unfilled?_eq_none_iff {parameters : Parameters}
    {templates : List Template} :
    templates.findSome? parameters.unfilled? = none ↔
      ∀ template ∈ templates, parameters.Fills template := by
  simp [unfilled?, Fills]

namespace Descriptor

variable {descriptor : Descriptor} {state : State} {clock : Option Nat}

/-- A list of templates is not rendered if a placeholder has no parameter. The first one in the
first such template is named. -/
theorem renderLines_eq_error_iff {label : String} {templates : List Template}
    {parameters : Parameters} {failure : CodeFailure} :
    descriptor.renderLines clock label templates parameters = .error failure ↔
      (templates.findSome? (parameters.clocked clock).unfilled?).map
        (.missingParameter descriptor.id label) = some failure := by
  rw [List.map_findSome?]
  refine mapM_eq_error_iff fun template htemplate failure => ?_
  have hsame : (parameters.withClock clock templates).unfilled? template =
      (parameters.clocked clock).unfilled? template := by
    refine List.find?_congr fun name hname => ?_
    rw [SortedMap.contains, SortedMap.contains, Parameters.get?_withClock htemplate hname]
  simp only [mapError_eq_error_iff, Template.render_eq_error_iff, hsame, Function.comp_apply,
    Option.map_eq_some_iff]

/-- A job is not rendered if a placeholder of its lines has no parameter, and the first such one
is named. -/
theorem renderJob_eq_error_iff {arguments : List String} {job : Job} {failure : CodeFailure} :
    descriptor.renderJob clock arguments job = .error failure ↔
      (job.unfilled? clock).map (fun missing =>
        .missingParameter descriptor.id missing.1 missing.2) = some failure := by
  cases job with
  | group set parameters =>
    simp only [renderJob, bind_eq_error_iff, renderLines_eq_error_iff, Job.unfilled?,
      Option.map_map]
    refine or_iff_left ?_
    rintro ⟨_, -, hnone⟩
    cases hnone
  | interrupt interrupt parameters =>
    simp only [renderJob, bind_eq_error_iff, renderLines_eq_error_iff, renderLines_eq_ok_iff,
      Job.unfilled?, Job.lines, Job.parameters, Job.label, List.findSome?_append,
      Option.map_map, ← Parameters.findSome?_unfilled?_eq_none_iff]
    cases interrupt.enable.findSome? (parameters.clocked clock).unfilled? with
    | none => simp [pure, Except.pure]; rfl
    | some name => simp

/-- The arguments are not found if a parameter has no setting, and the first such one is named. -/
theorem callArguments_eq_error_iff {failure : CodeFailure} :
    descriptor.callArguments (descriptor.peripheralSettings state) = .error failure ↔
      (descriptor.unsetParameter? state).map (fun parameter =>
        .missingArgument descriptor.id parameter.name parameter.field) = some failure := by
  rw [unsetParameter?, List.find?_eq_findSome?_guard, List.map_findSome?]
  refine mapM_eq_error_iff fun parameter _ failure => ?_
  cases hfound : (descriptor.peripheralSettings state).get? parameter.field with
  | none => simp [SortedMap.contains, hfound, Option.guard]
  | some value => simp [SortedMap.contains, hfound, Option.guard]

/-! ## Jobs ask for what is demanded -/

/-- A job and a demand have the same first placeholder without a value if they are about the same
lines and the same names. -/
theorem Job.unfilled?_eq {job : Job} {demand : Demand} (hlabel : job.label = demand.label)
    (hlines : job.lines = demand.lines)
    (hnames : ∀ name, job.parameters.contains name = demand.names.contains name) :
    job.unfilled? clock = demand.unfilled? clock := by
  have hbinds (name : String) :
      (job.parameters.clocked clock).contains name = demand.binds clock name := by
    cases clock with
    | none => simp [Parameters.clocked, Demand.binds, hnames]
    | some frequency =>
      rw [Bool.eq_iff_iff, Parameters.contains_clocked, hnames]
      simp [Demand.binds, or_comm]
  have hline : (job.parameters.clocked clock).unfilled? =
      fun line => line.placeholders.find? fun name => !demand.binds clock name := by
    funext line
    simp only [Parameters.unfilled?, hbinds]
  rw [Job.unfilled?, Demand.unfilled?, Demand.unbound?, hlabel, hlines, hline]

/-- The parameters that settings stand for have the names of the settings. -/
theorem contains_namesOf {settings : Settings} {name : String} :
    (descriptor.namesOf settings).contains name =
      (descriptor.parametersOf settings).contains name := by
  rw [namesOf, Bool.eq_iff_iff, List.contains_iff_mem, SortedMap.mem_keys_iff,
    ← SortedMap.contains_iff, contains_parametersOf]
  simp [Settings.tabulated, SortedMap.contains, SortedMap.get?_mapValues]

/-- A signal has a pin for an interrupt if it reaches any, and one of them is taken or nothing
but the interrupt is wanted. -/
theorem isSome_carrier?_eq {interrupt signal : String} :
    (descriptor.carrier? state interrupt signal).isSome =
      (((descriptor.pinsOf signal).any state.occupies || state.wantsOnly interrupt) &&
        !(descriptor.pinsOf signal).isEmpty) := by
  by_cases hpins : descriptor.pinsOf signal = []
  · cases state <;> simp [carrier?, hpins]
  · rw [isSome_carrier? hpins, List.isEmpty_eq_false_iff.mpr hpins, Bool.not_false, Bool.and_true]

/-- The parameters at a pin have the names that stand for it. -/
theorem contains_atPin_parametersOf {settings : Settings} {pin : Pin} {signal name : String} :
    ((descriptor.parametersOf settings).atPin pin signal).contains name =
      (descriptor.namesOf settings ++ Parameters.pinNames).contains name := by
  rw [Bool.eq_iff_iff, Parameters.contains_atPin, ← contains_namesOf]
  simp [or_comm]

/-- The vector and the label of an interrupt are two more names with values. -/
theorem contains_insert_vector_label {parameters : Parameters} {names : List String}
    (h : ∀ name, parameters.contains name = names.contains name) (vector label name : String) :
    ((parameters.insert "vector" vector).insert "label" label).contains name =
      (names ++ ["vector", "label"]).contains name := by
  rw [SortedMap.contains, SortedMap.get?_insert, SortedMap.get?_insert]
  have hname := h name
  rw [SortedMap.contains] at hname
  by_cases hlabel : name = "label"
  · simp [hlabel]
  by_cases hvector : name = "vector"
  · simp [hvector]
  simp [hlabel, hvector, hname]

/-- An interrupt has a job if it is emitted, and this asks for what the interrupt does. -/
theorem map_unfilled?_interruptJob? (interrupt : Interrupt) :
    (descriptor.interruptJob? state (descriptor.peripheralSettings state) interrupt).map
        (Job.unfilled? clock) =
      if descriptor.isEmitted state interrupt then
        some ((descriptor.interruptDemand state interrupt).unfilled? clock)
      else none := by
  unfold interruptJob? isEmitted emits
  by_cases happlies : (isEnabled state interrupt &&
    Condition.holdsIfGiven interrupt.applies (descriptor.peripheralSettings state)) = true
  · rw [if_pos happlies, happlies, Bool.true_and]
    cases hsignal : interrupt.signal with
    | none =>
      refine congrArg some (Job.unfilled?_eq rfl rfl fun name => ?_)
      simp only [interruptDemand, hsignal]
      exact contains_insert_vector_label (fun _ => by simpa using contains_namesOf.symm) _ _ _
    | some signal =>
      rw [Option.all_some, Option.all_some, ← isSome_carrier?_eq]
      cases hpin : descriptor.carrier? state interrupt.name signal with
      | none => simp [hpin]
      | some pin =>
        simp only [hpin, Option.map_some, Option.isSome_some, if_true]
        refine congrArg some (Job.unfilled?_eq rfl rfl fun name => ?_)
        simp only [interruptDemand, hsignal]
        exact contains_insert_vector_label (fun _ => contains_atPin_parametersOf) _ _ _
  · rw [if_neg happlies, Bool.eq_false_of_not_eq_true happlies]
    rfl

/-- The jobs for a state ask for what is demanded. -/
theorem map_unfilled?_jobs : (descriptor.jobs state).map (Job.unfilled? clock) =
    (descriptor.demands state).map (Demand.unfilled? clock) := by
  simp only [jobs, demands, List.map_append, List.map_map, List.map_flatMap, List.map_filterMap,
    sharedSets_eq_chosen]
  congr 1
  · congr 1
    · refine List.map_congr_left fun set _ => Job.unfilled?_eq rfl rfl fun name => ?_
      exact contains_namesOf.symm
    · refine List.flatMap_congr fun use _ => ?_
      rw [pinJobs, pinSets_eq_chosen, List.map_map]
      refine List.map_congr_left fun set _ => Job.unfilled?_eq rfl rfl fun name => ?_
      exact contains_atPin_parametersOf
  · exact filterMap_eq_map_filter fun interrupt _ => map_unfilled?_interruptJob? interrupt

/-- The first value that the jobs for a state miss is the first one that is demanded in vain. -/
theorem findSome?_unfilled?_jobs :
    (descriptor.jobs state).findSome? (Job.unfilled? clock) = descriptor.unfilled? state clock := by
  have hmap : (descriptor.jobs state).map (Job.unfilled? clock) =
      (descriptor.demands state).map (Demand.unfilled? clock) := map_unfilled?_jobs
  have hfirst := congrArg (List.findSome? fun missing => missing) hmap
  rwa [List.findSome?_map, List.findSome?_map] at hfirst

/-! ## Expansions that fail -/

/-- No parameter is without a setting if each of them has one. -/
theorem unsetParameter?_eq_none_iff :
    descriptor.unsetParameter? state = none ↔ ∀ parameter ∈ descriptor.signature.parameters,
      (descriptor.peripheralSettings state).contains parameter.field = true := by
  simp [unsetParameter?]

/-- Nothing is without a value if all placeholders of all lines have one. -/
theorem unfilled?_eq_none_iff :
    descriptor.unfilled? state clock = none ↔ ∀ demand ∈ descriptor.demands state,
      ∀ line ∈ demand.lines, ∀ name ∈ line.placeholders, demand.binds clock name = true := by
  simp [unfilled?, Demand.unfilled?, Demand.unbound?]

/-- An active peripheral is not expanded if a parameter of its init routine has no setting, or
else if its code asks for a value that is not there. The failure is about the first of these. -/
theorem expand_eq_error_iff {failure : CodeFailure} (hactive : state.isActive = true) :
    descriptor.expand state clock = .error failure ↔
      (∃ parameter, descriptor.unsetParameter? state = some parameter ∧
        failure = .missingArgument descriptor.id parameter.name parameter.field) ∨
      (descriptor.unsetParameter? state = none ∧ ∃ label name,
        descriptor.unfilled? state clock = some (label, name) ∧
          failure = .missingParameter descriptor.id label name) := by
  have harguments : (∃ arguments, descriptor.callArguments (descriptor.peripheralSettings state) =
      .ok arguments) ↔ descriptor.unsetParameter? state = none := by
    simp only [callArguments_eq_ok_iff, unsetParameter?_eq_none_iff, exists_and_left,
      exists_eq, and_true]
  have hjobs (arguments : List String) :
      (descriptor.jobs state).mapM (descriptor.renderJob clock arguments) = .error failure ↔
        ∃ label name, descriptor.unfilled? state clock = some (label, name) ∧
          failure = .missingParameter descriptor.id label name := by
    rw [mapM_eq_error_iff fun _ _ _ => renderJob_eq_error_iff, ← Function.comp_def,
      ← List.map_findSome?, findSome?_unfilled?_jobs, Option.map_eq_some_iff, Prod.exists]
    exact exists₂_congr fun _ _ => and_congr_right fun _ => eq_comm
  simp only [expand, if_pos hactive, bind_eq_error_iff, callArguments_eq_error_iff, hjobs]
  refine or_congr ?_ ?_
  · rw [Option.map_eq_some_iff]
    exact exists_congr fun _ => and_congr_right fun _ => eq_comm
  · rw [← harguments, ← exists_and_right]
    refine exists_congr fun _ => and_congr_right fun _ => or_iff_left ?_
    rintro ⟨_, -, hnone⟩
    cases hnone

/-- The code of an active peripheral fails exactly if it asks for a value that is not there,
first for the parameters of the init routine and then for the lines, and the failure is about
the first such value. -/
theorem expand_outcome (hactive : state.isActive = true) :
    (∀ failure, descriptor.expand state clock = .error failure ↔
      (∃ parameter, descriptor.unsetParameter? state = some parameter ∧
        failure = .missingArgument descriptor.id parameter.name parameter.field) ∨
      (descriptor.unsetParameter? state = none ∧ ∃ label name,
        descriptor.unfilled? state clock = some (label, name) ∧
          failure = .missingParameter descriptor.id label name)) ∧
    ((∃ expansion, descriptor.expand state clock = .ok expansion) ↔
      descriptor.unsetParameter? state = none ∧ descriptor.unfilled? state clock = none) ∧
    (descriptor.unsetParameter? state = none ↔ ∀ parameter ∈ descriptor.signature.parameters,
      (descriptor.peripheralSettings state).contains parameter.field = true) ∧
    (descriptor.unfilled? state clock = none ↔ ∀ demand ∈ descriptor.demands state,
      ∀ line ∈ demand.lines, ∀ name ∈ line.placeholders, demand.binds clock name = true) := by
  refine ⟨fun failure => expand_eq_error_iff hactive, ?_, unsetParameter?_eq_none_iff,
    unfilled?_eq_none_iff⟩
  simp only [exists_eq_ok_iff, ne_eq, expand_eq_error_iff hactive]
  constructor
  · intro hnot
    have hset : descriptor.unsetParameter? state = none :=
      Option.eq_none_iff_forall_ne_some.mpr fun parameter hunset =>
        hnot _ (Or.inl ⟨parameter, hunset, rfl⟩)
    refine ⟨hset, Option.eq_none_iff_forall_ne_some.mpr fun missing hmissing => ?_⟩
    exact hnot _ (Or.inr ⟨hset, missing.1, missing.2, hmissing, rfl⟩)
  · rintro ⟨hset, hfilled⟩ failure (⟨_, hunset, -⟩ | ⟨-, _, _, hunfilled, -⟩)
    · rw [hset] at hunset
      cases hunset
    · rw [hfilled] at hunfilled
      cases hunfilled

/-- A watchdog whose second line asks for the clock, and then for two values that are not
there. -/
def unfilledDescriptor : Descriptor :=
  { Device.watchdogDescriptor with
    templates := [⟨.peripheral, "init", none, none, [], [.ofSegments [.literal "A"],
      .ofSegments [.placeholder "clock_hz", .literal ",", .placeholder "x", .placeholder "y"]]⟩] }

/-- The first of the two values that are not there is named. -/
theorem expand_unfilledDescriptor : (State.global true ∅ ∅).isActive = true ∧
    unfilledDescriptor.expand (.global true ∅ ∅) (some 8) =
      .error (.missingParameter .watchdog "peripheral:init" "x") :=
  ⟨rfl, ((expand_outcome rfl).1 _).mpr
    (Or.inr ⟨by decide, "peripheral:init", "x", by decide, rfl⟩)⟩

end Descriptor

end AvrSetup
