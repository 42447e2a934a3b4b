import AvrSetup.Proofs.Spelling
import AvrSetup.Proofs.Supply
import AvrSetup.Proofs.WellFormedness

/-!
# Settings that nothing refers to

A record may have a setting under a key that no field declares. It stays in the record that is in
force, and it even becomes a parameter that templates could be filled in with. For the code it is
as if it were not there: an accepted description looks at declared settings only, and templates
that do not mention the key are filled in with the same texts. So it does not matter whether the
setting is given, where, and with which value (`Device.expand_assign`).
-/

namespace AvrSetup

/-! ## Maps that agree but for one key -/

/-- Two maps give the same value for every key but one. -/
def SortedMap.AgreesBut {α β : Type} [Ord α] (key : α) (map other : SortedMap α β) : Prop :=
  ∀ place, place ≠ key → map.get? place = other.get? place

namespace SortedMap

variable {α β γ : Type} [Ord α] [Std.LawfulEqOrd α] {key : α} {map other : SortedMap α β}

/-- The maps still agree when their values are mapped. -/
theorem AgreesBut.mapValues (h : map.AgreesBut key other) (f : α → β → γ) :
    (map.mapValues f).AgreesBut key (other.mapValues f) := by
  intro place hplace
  rw [get?_mapValues, get?_mapValues, h place hplace]

variable [DecidableEq α]

/-- A map agrees with itself without the key. -/
theorem agreesBut_erase (map : SortedMap α β) : (map.erase key).AgreesBut key map := by
  intro place hplace
  rw [get?_erase, if_neg hplace]

namespace AgreesBut

variable [Std.TransOrd α]

/-- The maps still agree when the same entry is put into both. -/
theorem insert (h : map.AgreesBut key other) (place : α) (value : β) :
    (map.insert place value).AgreesBut key (other.insert place value) := by
  intro found hfound
  rw [get?_insert, get?_insert, h found hfound]

/-- The maps still agree when maps that agree are put over them. -/
theorem overlay {upper above : SortedMap α β} (h : map.AgreesBut key other)
    (hupper : upper.AgreesBut key above) :
    (map.overlay upper).AgreesBut key (other.overlay above) := by
  intro place hplace
  rw [get?_overlay, get?_overlay, h place hplace, hupper place hplace]

end AgreesBut

end SortedMap

/-! ## Records -/

namespace Settings

variable {key : String} {settings other : Settings}

/-- A condition that does not read the key holds of both records or of neither. -/
theorem holdsIfGiven_eq_of_agreesBut (h : settings.AgreesBut key other)
    {condition : Option Condition} (hfree : ∀ given, condition = some given → key ∉ given.keys) :
    Condition.holdsIfGiven condition settings = Condition.holdsIfGiven condition other := by
  refine Condition.holdsIfGiven_congr fun given hgiven place hplace => h place ?_
  rintro rfl
  exact hfree given hgiven hplace

/-- The records still agree when defaults are filled in. -/
theorem filled_agreesBut (h : settings.AgreesBut key other) (fields : List Field) (scope : Scope) :
    (filled fields scope settings).AgreesBut key (filled fields scope other) := by
  intro place hplace
  rw [filled, filled, get?_withDefaults, get?_withDefaults, h place hplace]

/-- The records in force agree if it is not the key that decides which fields matter. -/
theorem effective_agreesBut (h : settings.AgreesBut key other) {fields : List Field}
    (hfree : ∀ field ∈ fields, ∀ given, field.visible = some given → key ∉ given.keys)
    (scope : Scope) :
    (effective fields scope settings).AgreesBut key (effective fields scope other) := by
  have hfilled := filled_agreesBut h fields scope
  have hvisible : ∀ field ∈ fieldsIn fields scope, field.isVisible (filled fields scope settings) =
      field.isVisible (filled fields scope other) := by
    intro field hfield
    exact holdsIfGiven_eq_of_agreesBut hfilled (hfree field (List.mem_filter.mp hfield).1)
  intro place hplace
  have hhidden : (∃ field ∈ fieldsIn fields scope, field.key = place ∧
        field.isVisible (filled fields scope settings) = false) ↔
      ∃ field ∈ fieldsIn fields scope, field.key = place ∧
        field.isVisible (filled fields scope other) = false := by
    apply exists_congr
    intro field
    apply and_congr_right
    intro hfield
    rw [hvisible field hfield]
  rw [get?_effective, get?_effective, hfilled place hplace]
  simp only [hhidden]

/-- The records select the same mode key unless it is the key that selects it. -/
theorem modeKey?_eq_of_agreesBut (h : settings.AgreesBut key other) {mode : Option ModeTable}
    (hfree : ∀ given, mode = some given → given.field ≠ key) :
    settings.modeKey? mode = other.modeKey? mode := by
  cases mode with
  | none => rfl
  | some given =>
    simp only [modeKey?, bind, Option.bind_some, h given.field (hfree given rfl)]

end Settings

/-! ## Templates -/

variable {key : String} {parameters other : Parameters}

/-- A template that does not mention the key is rendered alike, or misses the same name. -/
theorem Template.render_eq_of_agreesBut (h : parameters.AgreesBut key other) {template : Template}
    (hfree : template.mentions key = false) :
    template.render parameters = template.render other := by
  have hsegment : ∀ segment ∈ template.segments,
      segment.render parameters = segment.render other := by
    intro segment hmem
    cases segment with
    | literal text => rfl
    | placeholder name =>
      have hname : name ∈ template.placeholders :=
        List.mem_filterMap.mpr ⟨.placeholder name, hmem, rfl⟩
      have hne : name ≠ key := by
        rintro rfl
        rw [mentions, List.contains_iff_mem.mpr hname] at hfree
        cases hfree
      rw [Segment.render, Segment.render, h name hne]
  have hsame : List.Forall₂
      (fun segment segment' => segment.render parameters = segment'.render other)
      template.segments template.segments := List.forall₂_same.mpr hsegment
  have hsegments : template.segments.mapM (Segment.render parameters) =
      template.segments.mapM (Segment.render other) := mapM_eq_of_forall₂ hsame fun _ _ h => h
  rw [render, render, hsegments]

/-- The frequency of the clock is added to both or to neither. -/
theorem Parameters.withClock_agreesBut (h : parameters.AgreesBut key other) (clock : Option Nat)
    (templates : List Template) :
    (parameters.withClock clock templates).AgreesBut key (other.withClock clock templates) := by
  unfold withClock
  cases clock with
  | none => exact h
  | some frequency =>
    dsimp only
    split
    · exact h.insert clockParameter (toString frequency)
    · exact h

/-- The names that stand for a pin are put over both. -/
theorem Parameters.atPin_agreesBut (h : parameters.AgreesBut key other) (pin : Pin)
    (signal : String) : (parameters.atPin pin signal).AgreesBut key (other.atPin pin signal) :=
  h.overlay fun _ _ => rfl

/-- Templates that do not mention the key are rendered alike. -/
theorem Descriptor.renderLines_eq_of_agreesBut (h : parameters.AgreesBut key other)
    {templates : List Template} (hfree : ∀ line ∈ templates, line.mentions key = false)
    (descriptor : Descriptor) (clock : Option Nat) (label : String) :
    descriptor.renderLines clock label templates parameters =
      descriptor.renderLines clock label templates other := by
  have hclock := Parameters.withClock_agreesBut h clock templates
  have hsame : List.Forall₂ (fun line line' =>
      line.render (parameters.withClock clock templates) =
        line'.render (other.withClock clock templates)) templates templates := by
    apply List.forall₂_same.mpr
    intro line hline
    exact Template.render_eq_of_agreesBut hclock (hfree line hline)
  apply mapM_eq_of_forall₂ hsame
  intro line line' hline
  rw [hline]

/-! ## Jobs -/

/-- Two jobs are for the same code, which does not mention the key, and their parameters agree
but for it. -/
inductive Job.AgreesBut (key : String) : Job → Job → Prop where
  /-- The group of templates is the same. -/
  | group {set : TemplateSet} {parameters other : Parameters}
    (hfree : ∀ line ∈ set.lines, line.mentions key = false) (h : parameters.AgreesBut key other) :
    AgreesBut key (.group set parameters) (.group set other)
  /-- The interrupt is the same. -/
  | interrupt {interrupt : Interrupt} {parameters other : Parameters}
    (henable : ∀ line ∈ interrupt.enable, line.mentions key = false)
    (hhandler : ∀ line ∈ interrupt.handler, line.mentions key = false)
    (h : parameters.AgreesBut key other) :
    AgreesBut key (.interrupt interrupt parameters) (.interrupt interrupt other)

/-- Jobs that agree but for what they do not mention have the same code, or fail alike. -/
theorem Descriptor.renderJob_eq_of_agreesBut {job job' : Job} (h : job.AgreesBut key job')
    (descriptor : Descriptor) (clock : Option Nat) (arguments : List String) :
    descriptor.renderJob clock arguments job = descriptor.renderJob clock arguments job' := by
  cases h with
  | group hfree h => rw [renderJob, renderJob, renderLines_eq_of_agreesBut h hfree]
  | interrupt henable hhandler h =>
    dsimp only [renderJob]
    rw [renderLines_eq_of_agreesBut h henable, renderLines_eq_of_agreesBut h hhandler]

namespace Descriptor

variable {descriptor : Descriptor} {settings more : Settings}

/-- Whether the code of a peripheral has a placeholder of a name. -/
def mentions (descriptor : Descriptor) (name : String) : Bool :=
  (descriptor.templates.any fun set => set.mentions name) ||
    descriptor.interrupts.any fun interrupt =>
      (interrupt.enable ++ interrupt.handler).any fun line => line.mentions name

/-- A key that has no effect on the code: no setting has it, and no line mentions it. Whatever a
descriptor refers to is a setting of it, since it is well formed. -/
structure Ignores (descriptor : Descriptor) (key : String) : Prop where
  /-- The descriptor refers to its own settings only. -/
  isWellFormed : descriptor.IsWellFormed
  /-- The key is not one of them. -/
  not_declares : ¬descriptor.Declares key
  /-- Its code does not mention the key. -/
  mentions_eq : descriptor.mentions key = false

/-- The settings stand for parameters that agree. -/
theorem parametersOf_agreesBut (descriptor : Descriptor) (h : settings.AgreesBut key more) :
    (descriptor.parametersOf settings).AgreesBut key (descriptor.parametersOf more) :=
  (h.mapValues _).mapValues _

namespace Ignores

/-- The condition of a field does not read the key. -/
theorem not_mem_visible (h : descriptor.Ignores key) {field : Field}
    (hfield : field ∈ descriptor.fields) {condition : Condition}
    (hvisible : field.visible = some condition) : key ∉ condition.keys := fun hkey =>
  h.not_declares (h.isWellFormed.declares_visible field hfield condition hvisible key hkey)

/-- The condition of a group of templates does not read the key. -/
theorem not_mem_condition (h : descriptor.Ignores key) {set : TemplateSet}
    (hset : set ∈ descriptor.templates) {condition : Condition}
    (hcondition : set.condition = some condition) : key ∉ condition.keys := fun hkey =>
  h.not_declares (h.isWellFormed.declares_condition set hset condition hcondition key hkey)

/-- The condition of an interrupt does not read the key. -/
theorem not_mem_applies (h : descriptor.Ignores key) {interrupt : Interrupt}
    (hinterrupt : interrupt ∈ descriptor.interrupts) {condition : Condition}
    (happlies : interrupt.applies = some condition) : key ∉ condition.keys := fun hkey =>
  h.not_declares (h.isWellFormed.declares_applies interrupt hinterrupt condition happlies key hkey)

/-- The key does not select the mode. -/
theorem mode_ne (h : descriptor.Ignores key) {mode : ModeTable}
    (hmode : descriptor.mode = some mode) : mode.field ≠ key := by
  rintro rfl
  exact h.not_declares (h.isWellFormed.declares_mode mode hmode)

/-- The key does not fill a parameter of the init routine. -/
theorem parameter_ne (h : descriptor.Ignores key) {parameter : Parameter}
    (hparameter : parameter ∈ descriptor.signature.parameters) : parameter.field ≠ key := by
  rintro rfl
  exact h.not_declares (h.isWellFormed.declares_parameter parameter hparameter)

/-- The lines of a group of templates do not mention the key. -/
theorem mentions_line (h : descriptor.Ignores key) {set : TemplateSet}
    (hset : set ∈ descriptor.templates) {line : Template} (hline : line ∈ set.lines) :
    line.mentions key = false := by
  have hfree := h.mentions_eq
  simp only [mentions, TemplateSet.mentions, Bool.or_eq_false_iff, List.any_eq_false,
    Bool.not_eq_true] at hfree
  exact hfree.1 set hset line hline

/-- The lines of an interrupt do not mention the key. -/
theorem mentions_interruptLine (h : descriptor.Ignores key) {interrupt : Interrupt}
    (hinterrupt : interrupt ∈ descriptor.interrupts) {line : Template}
    (hline : line ∈ interrupt.enable ++ interrupt.handler) : line.mentions key = false := by
  have hfree := h.mentions_eq
  simp only [mentions, Bool.or_eq_false_iff, List.any_eq_false, Bool.not_eq_true] at hfree
  exact hfree.2 interrupt hinterrupt line hline

/-! ### Settings -/

/-- The settings in force agree. -/
theorem effective_agreesBut (hignores : descriptor.Ignores key) (h : settings.AgreesBut key more)
    (scope : Scope) :
    (Settings.effective descriptor.fields scope settings).AgreesBut key
      (Settings.effective descriptor.fields scope more) := by
  apply Settings.effective_agreesBut h
  intro field hfield condition hvisible
  exact hignores.not_mem_visible hfield hvisible

/-- The same templates are selected. -/
theorem selected_eq (hignores : descriptor.Ignores key) (h : settings.AgreesBut key more)
    (scope : Scope) (keys : List String) :
    descriptor.selected scope keys settings = descriptor.selected scope keys more := by
  have hsets (place : String) :
      ((descriptor.templateSets scope place).filter fun set => set.appliesTo settings) =
        (descriptor.templateSets scope place).filter fun set => set.appliesTo more := by
    apply List.filter_congr
    intro set hset
    apply Settings.holdsIfGiven_eq_of_agreesBut h
    intro condition hcondition
    exact hignores.not_mem_condition (List.mem_filter.mp hset).1 hcondition
  simp only [selected, hsets]

/-- The same mode key is selected. -/
theorem modeKey?_eq (hignores : descriptor.Ignores key) (h : settings.AgreesBut key more) :
    settings.modeKey? descriptor.mode = more.modeKey? descriptor.mode :=
  Settings.modeKey?_eq_of_agreesBut h fun _ hmode => hignores.mode_ne hmode

/-- The same templates are selected for the peripheral. -/
theorem peripheralSets_eq (hignores : descriptor.Ignores key) (h : settings.AgreesBut key more) :
    descriptor.peripheralSets settings = descriptor.peripheralSets more := by
  rw [peripheralSets, peripheralSets, hignores.modeKey?_eq h, hignores.selected_eq h]

/-- The same templates are selected for a pin. -/
theorem pinSets_eq (hignores : descriptor.Ignores key) (h : settings.AgreesBut key more)
    (signal : String) : descriptor.pinSets signal settings = descriptor.pinSets signal more := by
  rw [pinSets, pinSets, hignores.modeKey?_eq h, hignores.selected_eq h]

/-- The init routine is called with the same texts, or misses the same one. -/
theorem callArguments_eq (hignores : descriptor.Ignores key) (h : settings.AgreesBut key more) :
    descriptor.callArguments settings = descriptor.callArguments more := by
  have hsame : List.Forall₂ (fun parameter parameter' : Parameter =>
      parameter = parameter' ∧ settings.get? parameter.field = more.get? parameter.field)
      descriptor.signature.parameters descriptor.signature.parameters := by
    apply List.forall₂_same.mpr
    intro parameter hparameter
    exact ⟨rfl, h parameter.field (hignores.parameter_ne hparameter)⟩
  apply mapM_eq_of_forall₂ hsame
  rintro parameter _ ⟨rfl, hfield⟩
  rw [hfield]

end Ignores

end Descriptor

/-! ## States -/

namespace State

/-- The state without a setting, neither for the peripheral as a whole nor for a pin. -/
def without (key : String) : State → State
  | pinBound pins settings interrupts =>
    pinBound (pins.mapValues fun _ given => given.erase key) (settings.erase key) interrupts
  | interruptOnly interrupt settings => interruptOnly interrupt (settings.erase key)
  | global enabled settings interrupts => global enabled (settings.erase key) interrupts

@[simp] theorem settings_without (state : State) :
    (state.without key).settings = state.settings.erase key := by
  cases state <;> rfl

theorem pinSettings_without (state : State) :
    (state.without key).pinSettings =
      state.pinSettings.mapValues fun _ given => given.erase key := by
  cases state <;> rfl

/-- The state takes the same pins without the setting. -/
@[simp] theorem occupies_without (state : State) :
    (state.without key).occupies = state.occupies := by
  funext pin
  rw [occupies, occupies, SortedMap.contains, SortedMap.contains, pinSettings_without,
    SortedMap.get?_mapValues, Option.isSome_map]

@[simp] theorem isActive_without (state : State) :
    (state.without key).isActive = state.isActive := by
  cases state with
  | pinBound pins settings interrupts =>
    simp [without, isActive, SortedMap.isEmpty, SortedMap.mapValues]
  | interruptOnly interrupt settings => rfl
  | global enabled settings interrupts => rfl

@[simp] theorem interruptEnabled?_without (state : State) (name : String) :
    (state.without key).interruptEnabled? name = state.interruptEnabled? name := by
  cases state <;> rfl

end State

namespace Descriptor

variable {descriptor : Descriptor} {settings more : Settings}

/-- The same pin carries a signal without the setting. -/
theorem carrier?_without (state : State) (interrupt signal : String) :
    descriptor.carrier? (state.without key) interrupt signal =
      descriptor.carrier? state interrupt signal := by
  have hfind : (descriptor.pinsOf signal).find? (state.without key).occupies =
      (descriptor.pinsOf signal).find? state.occupies := by
    rw [State.occupies_without]
  cases state with
  | pinBound pins settings interrupts => exact hfind
  | interruptOnly wanted settings => rfl
  | global enabled settings interrupts => rfl

/-- The same pins are set up without the setting. -/
theorem pinsInUse_without (state : State) :
    List.Forall₂ (fun use use' => use.1 = use'.1 ∧ use.2.1 = use'.2.1 ∧
        SortedMap.AgreesBut key use.2.2 use'.2.2)
      (descriptor.pinsInUse (state.without key)) (descriptor.pinsInUse state) := by
  cases state with
  | pinBound pins settings interrupts =>
    refine List.rel_filterMap (R := (· = ·)) ?_ (List.forall₂_refl descriptor.wiring)
    rintro ⟨signal, pin⟩ _ rfl
    simp only [SortedMap.get?_mapValues]
    cases pins.get? pin with
    | none => exact .none
    | some given => exact .some ⟨rfl, rfl, SortedMap.agreesBut_erase given⟩
  | interruptOnly wanted settings =>
    exact List.forall₂_same.mpr fun use _ => ⟨rfl, rfl, fun _ _ => rfl⟩
  | global enabled settings interrupts => exact .nil

/-- An interrupt is wanted with or without the setting. -/
theorem isEnabled_without (state : State) (interrupt : Interrupt) :
    isEnabled (state.without key) interrupt = isEnabled state interrupt := by
  rw [isEnabled, isEnabled, State.interruptEnabled?_without]

namespace Ignores

/-- The same templates are selected for the peripheral as a whole. -/
theorem sharedSets_without (hignores : descriptor.Ignores key) (h : settings.AgreesBut key more)
    (state : State) :
    descriptor.sharedSets (state.without key) settings = descriptor.sharedSets state more := by
  cases state with
  | pinBound pins own interrupts => exact hignores.peripheralSets_eq h
  | interruptOnly wanted own =>
    change descriptor.interruptSets wanted settings = descriptor.interruptSets wanted more
    rw [interruptSets, interruptSets, hignores.selected_eq h, hignores.peripheralSets_eq h]
  | global enabled own interrupts => exact hignores.peripheralSets_eq h

/-- Groups of templates that are chosen have jobs that agree. -/
theorem groups_agreesBut (hignores : descriptor.Ignores key) {parameters other : Parameters}
    (h : parameters.AgreesBut key other) {sets : List TemplateSet}
    (hsets : ∀ set ∈ sets, set ∈ descriptor.templates) :
    List.Forall₂ (Job.AgreesBut key) (sets.map fun set => .group set parameters)
      (sets.map fun set => .group set other) := by
  rw [List.forall₂_map_left_iff, List.forall₂_map_right_iff, List.forall₂_same]
  intro set hset
  exact .group (fun line hline => hignores.mentions_line (hsets set hset) hline) h

/-- A pin has jobs that agree. -/
theorem pinJobs_agreesBut (hignores : descriptor.Ignores key) (h : settings.AgreesBut key more)
    {given given' : Settings} (hgiven : given.AgreesBut key given') (signal : String) (pin : Pin) :
    List.Forall₂ (Job.AgreesBut key) (descriptor.pinJobs settings signal pin given)
      (descriptor.pinJobs more signal pin given') := by
  have hpin : (descriptor.pinSettings settings given).AgreesBut key
      (descriptor.pinSettings more given') := hignores.effective_agreesBut (h.overlay hgiven) .pin
  have hparameters := descriptor.parametersOf_agreesBut hpin
  dsimp only [pinJobs]
  rw [hignores.pinSets_eq hpin]
  apply hignores.groups_agreesBut (Parameters.atPin_agreesBut hparameters pin signal)
  intro set hset
  rw [pinSets_eq_chosen] at hset
  exact (mem_of_mem_chosen hset).1

/-- An interrupt has jobs that agree. -/
theorem interrupt_agreesBut (hignores : descriptor.Ignores key) {interrupt : Interrupt}
    (hinterrupt : interrupt ∈ descriptor.interrupts) {parameters other : Parameters}
    (h : parameters.AgreesBut key other) :
    Job.AgreesBut key (.interrupt interrupt parameters) (.interrupt interrupt other) := by
  apply Job.AgreesBut.interrupt
  · intro line hline
    exact hignores.mentions_interruptLine hinterrupt (List.mem_append_left _ hline)
  · intro line hline
    exact hignores.mentions_interruptLine hinterrupt (List.mem_append_right _ hline)
  · exact h

/-- An interrupt has a job in both cases or in neither, and the jobs agree. -/
theorem interruptJob?_agreesBut (hignores : descriptor.Ignores key)
    (h : settings.AgreesBut key more) (state : State) {interrupt : Interrupt}
    (hinterrupt : interrupt ∈ descriptor.interrupts) :
    Option.Rel (Job.AgreesBut key)
      (descriptor.interruptJob? (state.without key) settings interrupt)
      (descriptor.interruptJob? state more interrupt) := by
  have happlies : Condition.holdsIfGiven interrupt.applies settings =
      Condition.holdsIfGiven interrupt.applies more :=
    Settings.holdsIfGiven_eq_of_agreesBut h fun _ hcondition =>
      hignores.not_mem_applies hinterrupt hcondition
  have hjob {parameters other : Parameters} (hparameters : parameters.AgreesBut key other) :
      Job.AgreesBut key
        (.interrupt interrupt
          ((parameters.insert "vector" interrupt.vector).insert "label" interrupt.label))
        (.interrupt interrupt
          ((other.insert "vector" interrupt.vector).insert "label" interrupt.label)) :=
    hignores.interrupt_agreesBut hinterrupt ((hparameters.insert _ _).insert _ _)
  have hparameters := descriptor.parametersOf_agreesBut h
  unfold interruptJob?
  rw [isEnabled_without, happlies]
  split
  · cases interrupt.signal with
    | none => exact .some (hjob hparameters)
    | some signal =>
      simp only [carrier?_without]
      cases descriptor.carrier? state interrupt.name signal with
      | none => exact .none
      | some pin => exact .some (hjob (Parameters.atPin_agreesBut hparameters pin signal))
  · exact .none

/-- The settings of the peripheral in force agree. -/
theorem peripheralSettings_without (hignores : descriptor.Ignores key) (state : State) :
    (descriptor.peripheralSettings (state.without key)).AgreesBut key
      (descriptor.peripheralSettings state) := by
  rw [peripheralSettings, State.settings_without]
  exact hignores.effective_agreesBut (SortedMap.agreesBut_erase state.settings) .peripheral

/-- The state asks for jobs that agree without the setting. -/
theorem jobs_without (hignores : descriptor.Ignores key) (state : State) :
    List.Forall₂ (Job.AgreesBut key) (descriptor.jobs (state.without key))
      (descriptor.jobs state) := by
  have hsettings := hignores.peripheralSettings_without state
  have hshared : ∀ set ∈ descriptor.sharedSets state (descriptor.peripheralSettings state),
      set ∈ descriptor.templates := by
    intro set hset
    rw [sharedSets_eq_chosen] at hset
    exact (mem_of_mem_chosen hset).1
  dsimp only [jobs]
  rw [hignores.sharedSets_without hsettings]
  apply List.rel_append
  · apply List.rel_append
    · exact hignores.groups_agreesBut (descriptor.parametersOf_agreesBut hsettings) hshared
    · apply List.rel_flatMap (pinsInUse_without state)
      rintro ⟨signal, pin, given⟩ ⟨_, _, given'⟩ ⟨rfl, rfl, hgiven⟩
      exact hignores.pinJobs_agreesBut hsettings hgiven signal pin
  · have hsame : List.Forall₂ (fun interrupt interrupt' : Interrupt =>
        interrupt = interrupt' ∧ interrupt ∈ descriptor.interrupts)
        descriptor.interrupts descriptor.interrupts :=
      List.forall₂_same.mpr fun _ hinterrupt => ⟨rfl, hinterrupt⟩
    apply List.rel_filterMap ?_ hsame
    rintro interrupt _ ⟨rfl, hinterrupt⟩
    exact hignores.interruptJob?_agreesBut hsettings state hinterrupt

/-- A setting that the descriptor ignores does not change the code, nor how it fails. -/
theorem expand_without (hignores : descriptor.Ignores key) (state : State) (clock : Option Nat) :
    descriptor.expand (state.without key) clock = descriptor.expand state clock := by
  have hjobs (arguments : List String) :
      (descriptor.jobs (state.without key)).mapM (descriptor.renderJob clock arguments) =
        (descriptor.jobs state).mapM (descriptor.renderJob clock arguments) :=
    mapM_eq_of_forall₂ (hignores.jobs_without state) fun _ _ hjob =>
      renderJob_eq_of_agreesBut hjob descriptor clock arguments
  have harguments : descriptor.callArguments (descriptor.peripheralSettings (state.without key)) =
      descriptor.callArguments (descriptor.peripheralSettings state) :=
    hignores.callArguments_eq (hignores.peripheralSettings_without state)
  simp only [expand, State.isActive_without, hjobs, harguments]

end Ignores

end Descriptor

/-! ## One setting given anew -/

/-- The record with one setting given anew, or left out if no value is given. -/
def Settings.assign (settings : Settings) (key : String) (value : Option Value) : Settings :=
  match value with
  | some value => settings.insert key value
  | none => settings.erase key

/-- Apart from its key, the record is the same. -/
theorem Settings.erase_assign (settings : Settings) (key : String) (value : Option Value) :
    (settings.assign key value).erase key = settings.erase key := by
  apply SortedMap.ext_get?
  intro place
  rw [SortedMap.get?_erase, SortedMap.get?_erase]
  split
  · rfl
  · next hplace =>
    cases value with
    | none => rw [assign, SortedMap.get?_erase, if_neg hplace]
    | some value => rw [assign, SortedMap.get?_insert, if_neg hplace]

namespace State

/-- The state with one setting given anew or left out, either for the peripheral as a whole or
for a pin. A pin that is not taken has no settings, and gets none. -/
def assign (state : State) (place : Option Pin) (key : String) (value : Option Value) : State :=
  match place with
  | none => state.withSettings (state.settings.assign key value)
  | some pin => match state with
    | pinBound pins settings interrupts =>
      pinBound (pins.mapValues fun other given =>
        if other = pin then given.assign key value else given) settings interrupts
    | other => other

/-- Apart from the key, the state is the same. -/
theorem without_assign (state : State) (place : Option Pin) (key : String)
    (value : Option Value) : (state.assign place key value).without key = state.without key := by
  cases place with
  | none => cases state <;> simp [assign, withSettings, without, settings, Settings.erase_assign]
  | some pin =>
    cases state with
    | pinBound pins settings interrupts =>
      have hpins : ((pins.mapValues fun other given =>
          if other = pin then given.assign key value else given).mapValues fun _ given =>
            given.erase key) = pins.mapValues fun _ given => given.erase key := by
        apply SortedMap.ext_get?
        intro other
        rw [SortedMap.get?_mapValues, SortedMap.get?_mapValues, SortedMap.get?_mapValues,
          Option.map_map]
        congr 1
        funext given
        dsimp only [Function.comp_apply]
        split
        · exact given.erase_assign key value
        · rfl
      simp only [assign, without, hpins]
    | interruptOnly interrupt settings => rfl
    | global enabled settings interrupts => rfl

end State

/-- Unknown settings do not matter. Take a peripheral of an accepted device and a key that none
of its fields declares and none of its lines mentions. Then giving a value for the key, or taking
it back, for the peripheral or for one of its pins, leaves the code as it is, and if there is
none, it leaves the reason as it is. -/
theorem Device.expand_assign {text : String} {device : Device} (hparse : parse text = .ok device)
    {descriptor : Descriptor} (hdescriptor : descriptor ∈ device.peripherals) {key : String}
    (hundeclared : descriptor.field? key = none) (hfree : descriptor.mentions key = false)
    (state : State) (place : Option Pin) (value : Option Value) (clock : Option Nat) :
    descriptor.expand (state.assign place key value) clock = descriptor.expand state clock := by
  obtain ⟨element, hread⟩ := exists_readPeripheral_of_parse hparse hdescriptor
  have hnot : ¬descriptor.Declares key := by
    rintro ⟨field, hfield, hkey⟩
    exact List.find?_eq_none.mp hundeclared field hfield (beq_iff_eq.mpr hkey)
  have hignores : descriptor.Ignores key :=
    ⟨isWellFormed_of_readPeripheral hread, hnot, hfree⟩
  calc descriptor.expand (state.assign place key value) clock
      = descriptor.expand ((state.assign place key value).without key) clock :=
        (hignores.expand_without _ clock).symm
    _ = descriptor.expand (state.without key) clock := by rw [State.without_assign]
    _ = descriptor.expand state clock := hignores.expand_without state clock

/-- The key `label` is the name of a parameter, but no line mentions it. -/
theorem expand_assign_extint :
    extintDescriptor.field? "label" = none ∧ extintDescriptor.mentions "label" = false ∧
      extintDescriptor.expand (State.assign (.onPin (Atmega328p.pinAt .d 2) ∅ ∅)
          (some (Atmega328p.pinAt .d 2)) "label" (some (.int 3))) none =
        extintDescriptor.expand (.onPin (Atmega328p.pinAt .d 2) ∅ ∅) none := by
  have hdescriptor : extintDescriptor ∈ extintDevice.peripherals := List.mem_singleton.mpr rfl
  have hundeclared : extintDescriptor.field? "label" = none := by decide
  have hfree : extintDescriptor.mentions "label" = false := by decide
  exact ⟨hundeclared, hfree,
    Device.expand_assign Device.parse_extintText hdescriptor hundeclared hfree _ _ _ _⟩

end AvrSetup
