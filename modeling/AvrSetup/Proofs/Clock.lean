import AvrSetup.Proofs.MissingValues
import AvrSetup.Proofs.UnknownSettings

/-!
# The clock matters only where it is mentioned

The frequency of the clock is one more parameter, and it is put over a setting of the same name.
So a known clock is never what code lacks, and code that does not mention it is the same for every
clock. Where code does mention it and gets on without, by a setting of that name, a clock changes
nothing but the texts of lines: what an expansion is without these texts
(`Expansion.withoutTexts`) stays as it is (`Descriptor.clock_matters_where_mentioned`).
-/

namespace AvrSetup

/-! ## Code without the texts of its lines -/

/-- As many lines, with nothing on them. -/
def blankLines (lines : List String) : List String := lines.map fun _ => ""

@[simp] theorem blankLines_append (first second : List String) :
    blankLines (first ++ second) = blankLines first ++ blankLines second := List.map_append

@[simp] theorem length_blankLines (lines : List String) :
    (blankLines lines).length = lines.length := List.length_map _

@[simp] theorem isEmpty_blankLines (lines : List String) :
    (blankLines lines).isEmpty = lines.isEmpty := List.isEmpty_map

/-- A fragment with nothing on its lines. -/
def Fragment.withoutTexts (fragment : Fragment) : Fragment :=
  { fragment with lines := blankLines fragment.lines }

/-- A handler with nothing on its lines. -/
def Handler.withoutTexts (handler : Handler) : Handler :=
  { handler with lines := blankLines handler.lines }

/-- An emission with nothing on its lines. -/
def Emission.withoutTexts (emission : Emission) : Emission :=
  { emission with
    fragment := emission.fragment.withoutTexts
    handler := emission.handler.map Handler.withoutTexts }

/-- An expansion with nothing on its lines. -/
def Expansion.withoutTexts (expansion : Expansion) : Expansion :=
  { expansion with
    fragments := expansion.fragments.map Fragment.withoutTexts
    handlers := expansion.handlers.map Handler.withoutTexts }

/-- To which place lines are added does not depend on their texts. -/
theorem Fragment.map_withoutTexts_addTo (fragment : Fragment) (fragments : List Fragment) :
    (fragment.addTo fragments).map withoutTexts =
      fragment.withoutTexts.addTo (fragments.map withoutTexts) := by
  induction fragments with
  | nil => rfl
  | cons head rest ih =>
    have hname (other : Fragment) :
        other.withoutTexts.signature.name = other.signature.name := rfl
    simp only [addTo, List.map_cons, hname]
    split
    · simp [withoutTexts]
    · rw [List.map_cons, ih]

namespace Expansion

/-- What an emission adds does not depend on the texts of its lines, apart from these. -/
theorem withoutTexts_add (expansion : Expansion) (emission : Emission) :
    (expansion.add emission).withoutTexts =
      expansion.withoutTexts.add emission.withoutTexts := by
  have hempty : emission.fragment.withoutTexts.lines.isEmpty =
      emission.fragment.lines.isEmpty := isEmpty_blankLines _
  have hhandlers : (expansion.handlers ++ emission.handler.toList).map Handler.withoutTexts =
      expansion.handlers.map Handler.withoutTexts ++
        (emission.handler.map Handler.withoutTexts).toList := by
    rw [List.map_append, Option.toList_map]
  simp only [withoutTexts, add, Emission.withoutTexts, hempty, hhandlers]
  congr 1
  split
  · rfl
  · exact emission.fragment.map_withoutTexts_addTo expansion.fragments

/-- What emissions add up to does not depend on the texts of their lines, apart from these. -/
theorem withoutTexts_ofEmissions (peripheral : Peripheral) (emissions : List Emission) :
    (ofEmissions peripheral emissions).withoutTexts =
      ofEmissions peripheral (emissions.map Emission.withoutTexts) := by
  rw [ofEmissions, ofEmissions, List.foldl_map]
  refine (List.foldl_hom withoutTexts fun expansion emission => ?_).symm
  exact (withoutTexts_add expansion emission).symm

end Expansion

/-! ## Code with and without a clock -/

/-- A name with a value has one with a clock as well. -/
theorem Parameters.Fills.clocked {parameters : Parameters} {template : Template}
    (h : parameters.Fills template) (clock : Option Nat) :
    (parameters.clocked clock).Fills template := by
  intro name hname
  cases clock with
  | none => exact h name hname
  | some frequency => exact Parameters.contains_clocked.mpr (.inr (h name hname))

/-- Lines are as many with any clock. -/
theorem blankLines_filledLines (clock other : Option Nat) (parameters : Parameters)
    (templates : List Template) :
    blankLines (filledLines clock parameters templates) =
      blankLines (filledLines other parameters templates) := by
  simp only [blankLines, filledLines, List.map_map, Function.comp_def]

namespace Job

/-- A job without a clock that has all its values has them with a clock. -/
theorem IsFilled.withClock {job : Job} (h : job.IsFilled none) (clock : Option Nat) :
    job.IsFilled clock := by
  cases job with
  | group set parameters => exact fun line hline => Parameters.Fills.clocked (h line hline) clock
  | interrupt source parameters =>
    exact fun line hline => Parameters.Fills.clocked (h line hline) clock

end Job

namespace Descriptor

variable {descriptor : Descriptor} {state : State}

/-- What a job emits does not depend on the clock, apart from texts. -/
theorem withoutTexts_emission (clock other : Option Nat) (arguments : List String) (job : Job) :
    (descriptor.emission clock arguments job).withoutTexts =
      (descriptor.emission other arguments job).withoutTexts := by
  have hfragment (routine : Option String) (parameters : Parameters) (templates : List Template) :
      (descriptor.fragmentFor arguments routine
          (filledLines clock parameters templates)).withoutTexts =
        (descriptor.fragmentFor arguments routine
          (filledLines other parameters templates)).withoutTexts := by
    cases routine <;>
      simp only [fragmentFor, Fragment.withoutTexts, blankLines_filledLines clock other]
  cases job with
  | group set parameters => simp only [emission, Emission.withoutTexts, hfragment]
  | interrupt interrupt parameters =>
    simp only [emission, Emission.withoutTexts, hfragment, Option.map_some, Handler.withoutTexts,
      blankLines_filledLines clock other]

/-- What is left of an expansion without texts does not depend on the clock. -/
theorem withoutTexts_emissions (clock other : Option Nat) :
    (Expansion.ofEmissions descriptor.id (descriptor.emissions state clock)).withoutTexts =
      (Expansion.ofEmissions descriptor.id (descriptor.emissions state other)).withoutTexts := by
  simp only [Expansion.withoutTexts_ofEmissions, emissions, List.map_map]
  congr 1
  exact List.map_congr_left fun job _ => withoutTexts_emission clock other _ job

/-- A peripheral that is expanded without a clock is expanded with any, and only texts differ. -/
theorem exists_expand_withClock {expansion : Expansion}
    (h : descriptor.expand state none = .ok expansion) (clock : Option Nat) :
    ∃ clocked, descriptor.expand state clock = .ok clocked ∧
      clocked.withoutTexts = expansion.withoutTexts := by
  by_cases hactive : state.isActive = true
  · obtain ⟨⟨harguments, hfilled⟩, rfl⟩ := (expand_eq_ok_iff hactive).mp h
    refine ⟨_, (expand_eq_ok_iff hactive).mpr ⟨⟨harguments, fun job hjob => ?_⟩, rfl⟩,
      withoutTexts_emissions clock none⟩
    exact (hfilled job hjob).withClock clock
  · rw [expand, if_neg hactive] at h ⊢
    exact ⟨expansion, h, rfl⟩

/-! ## A clock that is known -/

/-- A clock that is known is not what code lacks. -/
theorem ne_clockParameter_of_unfilled? {frequency : Nat} {label name : String}
    (h : descriptor.unfilled? state (some frequency) = some (label, name)) :
    name ≠ clockParameter := by
  obtain ⟨demand, -, hdemand⟩ := List.exists_of_findSome?_eq_some h
  obtain ⟨missing, hmissing, heq⟩ := Option.map_eq_some_iff.mp hdemand
  cases heq
  obtain ⟨line, -, hline⟩ := List.exists_of_findSome?_eq_some hmissing
  have hunbound := List.find?_some hline
  rintro rfl
  simp [Demand.binds] at hunbound

/-! ## Code that does not mention the clock -/

/-- The job for an interrupt is about this interrupt. -/
theorem exists_of_interruptJob? {settings : Settings} {interrupt : Interrupt} {job : Job}
    (h : descriptor.interruptJob? state settings interrupt = some job) :
    ∃ parameters, job = .interrupt interrupt parameters := by
  unfold interruptJob? at h
  dsimp only at h
  split at h
  · split at h
    · cases h
      exact ⟨_, rfl⟩
    · obtain ⟨pin, -, rfl⟩ := Option.map_eq_some_iff.mp h
      exact ⟨_, rfl⟩
  · cases h

/-- The lines of a job are lines of the descriptor. -/
theorem mentions_of_mem_jobs {job : Job} (hjob : job ∈ descriptor.jobs state) {line : Template}
    (hline : line ∈ job.lines) {name : String} (hmentions : line.mentions name = true) :
    descriptor.mentions name = true := by
  have hset {set : TemplateSet} (hset : set ∈ descriptor.templates) (hline : line ∈ set.lines) :
      descriptor.mentions name = true :=
    (Bool.or_eq_true _ _).mpr (.inl (List.any_eq_true.mpr
      ⟨set, hset, List.any_eq_true.mpr ⟨line, hline, hmentions⟩⟩))
  have hinterrupt {interrupt : Interrupt} (hinterrupt : interrupt ∈ descriptor.interrupts)
      (hline : line ∈ interrupt.enable ++ interrupt.handler) : descriptor.mentions name = true :=
    (Bool.or_eq_true _ _).mpr (.inr (List.any_eq_true.mpr
      ⟨interrupt, hinterrupt, List.any_eq_true.mpr ⟨line, hline, hmentions⟩⟩))
  rcases List.mem_append.mp hjob with hjob | hjob
  · rcases List.mem_append.mp hjob with hjob | hjob
    · obtain ⟨set, hchosen, rfl⟩ := List.mem_map.mp hjob
      rw [sharedSets_eq_chosen] at hchosen
      exact hset (mem_of_mem_chosen hchosen).1 hline
    · obtain ⟨use, -, hjob⟩ := List.mem_flatMap.mp hjob
      obtain ⟨set, hchosen, rfl⟩ := List.mem_map.mp hjob
      rw [pinSets_eq_chosen] at hchosen
      exact hset (mem_of_mem_chosen hchosen).1 hline
  · obtain ⟨interrupt, hmem, hjob⟩ := List.mem_filterMap.mp hjob
    obtain ⟨parameters, rfl⟩ := exists_of_interruptJob? hjob
    exact hinterrupt hmem hline

/-- Lines that do not mention the clock are rendered alike with every clock. -/
theorem renderLines_eq_of_not_mentions {templates : List Template}
    (hfree : ∀ line ∈ templates, line.mentions clockParameter = false) (clock : Option Nat)
    (label : String) (parameters : Parameters) :
    descriptor.renderLines clock label templates parameters =
      descriptor.renderLines none label templates parameters := by
  have hsame : parameters.withClock clock templates = parameters.withClock none templates := by
    cases clock with
    | none => rfl
    | some frequency =>
      have hnone : (templates.any fun template => template.mentions clockParameter) = false :=
        List.any_eq_false.mpr fun line hline => Bool.eq_false_iff.mp (hfree line hline)
      simp only [Parameters.withClock, hnone, Bool.false_eq_true, if_false]
  rw [renderLines, renderLines, hsame]

/-- A job whose lines do not mention the clock is rendered alike with every clock. -/
theorem renderJob_eq_of_not_mentions {job : Job}
    (hfree : ∀ line ∈ job.lines, line.mentions clockParameter = false) (clock : Option Nat)
    (arguments : List String) :
    descriptor.renderJob clock arguments job = descriptor.renderJob none arguments job := by
  cases job with
  | group set parameters =>
    have hlines : ∀ line ∈ set.lines, line.mentions clockParameter = false := hfree
    dsimp only [renderJob]
    rw [renderLines_eq_of_not_mentions hlines]
  | interrupt interrupt parameters =>
    obtain ⟨henable, hhandler⟩ := List.forall_mem_append.mp hfree
    dsimp only [renderJob]
    rw [renderLines_eq_of_not_mentions henable, renderLines_eq_of_not_mentions hhandler]

/-- Code that does not mention the clock is the same with every clock, or fails alike. -/
theorem expand_eq_of_not_mentions (hfree : descriptor.mentions clockParameter = false)
    (state : State) (clock : Option Nat) :
    descriptor.expand state clock = descriptor.expand state none := by
  have hjob : ∀ job ∈ descriptor.jobs state, ∀ arguments,
      descriptor.renderJob clock arguments job = descriptor.renderJob none arguments job := by
    intro job hjob arguments
    refine renderJob_eq_of_not_mentions (fun line hline => ?_) clock arguments
    rw [Bool.eq_false_iff]
    intro hmentions
    rw [mentions_of_mem_jobs hjob hline hmentions] at hfree
    cases hfree
  have hjobs (arguments : List String) :
      (descriptor.jobs state).mapM (descriptor.renderJob clock arguments) =
        (descriptor.jobs state).mapM (descriptor.renderJob none arguments) :=
    mapM_eq_of_forall₂ (List.forall₂_same.mpr fun job hmem => hjob job hmem arguments)
      fun _ _ h => h
  simp only [expand, hjobs]

/-- The clock matters only where it is mentioned. If it is known, then it is not what code lacks.
If no line of a descriptor mentions it, then the code, or the reason why there is none, is the
same with and without every clock. And if there is code without a clock, then there is with
every clock, with the same headers, the same routines called with the same arguments in the same
order, as many lines in each, and handlers of the same vectors, also with as many lines. -/
theorem clock_matters_where_mentioned (descriptor : Descriptor) (state : State) :
    (∀ frequency peripheral group, descriptor.expand state (some frequency) ≠
      .error (.missingParameter peripheral group clockParameter)) ∧
    (descriptor.mentions clockParameter = false →
      ∀ clock other, descriptor.expand state clock = descriptor.expand state other) ∧
    ∀ expansion, descriptor.expand state none = .ok expansion →
      ∀ frequency, ∃ clocked, descriptor.expand state (some frequency) = .ok clocked ∧
        clocked.includes = expansion.includes ∧
        (clocked.fragments.map fun fragment =>
          (fragment.signature, fragment.arguments, fragment.lines.length)) =
          (expansion.fragments.map fun fragment =>
            (fragment.signature, fragment.arguments, fragment.lines.length)) ∧
        (clocked.handlers.map fun handler =>
          (handler.vector, handler.label, handler.lines.length)) =
          expansion.handlers.map fun handler =>
            (handler.vector, handler.label, handler.lines.length) := by
  refine ⟨fun frequency peripheral group h => ?_, fun hfree clock other => ?_,
    fun expansion h frequency => ?_⟩
  · by_cases hactive : state.isActive = true
    · obtain ⟨_, -, hfailure⟩ | ⟨-, _, _, hmissing, hfailure⟩ := (expand_eq_error_iff hactive).mp h
      · cases hfailure
      · cases hfailure
        exact ne_clockParameter_of_unfilled? hmissing rfl
    · rw [expand, if_neg hactive] at h
      cases h
  · rw [expand_eq_of_not_mentions hfree state clock, expand_eq_of_not_mentions hfree state other]
  · obtain ⟨clocked, hclocked, hsame⟩ := exists_expand_withClock h (some frequency)
    have hfragments := congrArg (fun result => result.fragments.map fun fragment =>
      (fragment.signature, fragment.arguments, fragment.lines.length)) hsame
    have hhandlers := congrArg (fun result => result.handlers.map fun handler =>
      (handler.vector, handler.label, handler.lines.length)) hsame
    refine ⟨clocked, hclocked, congrArg (fun result => result.includes) hsame, ?_, ?_⟩
    · simpa [Expansion.withoutTexts, Fragment.withoutTexts, Function.comp_def] using hfragments
    · simpa [Expansion.withoutTexts, Handler.withoutTexts, Function.comp_def] using hhandlers

/-- A watchdog with a setting of the name under which its line asks for the clock. -/
def clockSettingDescriptor : Descriptor :=
  { Device.watchdogDescriptor with
    fields := [⟨"clock_hz", "clock_hz", .int 0 9, .peripheral, .int 1, none⟩]
    templates := [⟨.peripheral, "init", none, none, [],
      [.ofSegments [.literal "F=", .placeholder "clock_hz"]]⟩] }

/-- The setting is used without a clock, and a clock is used instead of it. The watchdog without
such a line has the same code either way. -/
theorem clock_matters_where_mentioned_watchdog :
    clockSettingDescriptor.expand (.global true ∅ ∅) none =
        .ok ⟨.watchdog, ∅, [⟨.plain "wdt_init", [], ["F=1", "E;"]⟩], [⟨"V", "T", []⟩]⟩ ∧
      (∃ clocked, clockSettingDescriptor.expand (.global true ∅ ∅) (some 8) = .ok clocked ∧
        clocked.includes = ∅ ∧
        (clocked.fragments.map fun fragment =>
          (fragment.signature, fragment.arguments, fragment.lines.length)) =
            [(.plain "wdt_init", [], 2)] ∧
        (clocked.handlers.map fun handler =>
          (handler.vector, handler.label, handler.lines.length)) = [("V", "T", 0)]) ∧
      Device.watchdogDescriptor.mentions clockParameter = false ∧
      Device.watchdogDescriptor.expand (.global true ∅ ∅) (some 8) =
        Device.watchdogDescriptor.expand (.global true ∅ ∅) none := by
  have hexpand : clockSettingDescriptor.expand (.global true ∅ ∅) none =
      .ok ⟨.watchdog, ∅, [⟨.plain "wdt_init", [], ["F=1", "E;"]⟩], [⟨"V", "T", []⟩]⟩ := by
    decide +kernel
  have hfree : Device.watchdogDescriptor.mentions clockParameter = false := by decide +kernel
  exact ⟨hexpand, (clock_matters_where_mentioned clockSettingDescriptor _).2.2 _ hexpand 8, hfree,
    (clock_matters_where_mentioned Device.watchdogDescriptor _).2.1 hfree (some 8) none⟩

end Descriptor

end AvrSetup
