import AvrSetup.Code.Generation
import AvrSetup.Proofs.Success

/-!
# What templates are filled in with

Filling in a template fails if a placeholder has no parameter. This file separates the two
questions: which parameters have to be there, and which text comes out if they are. The
latter is a plain function, from single segments (`Segment.fill`) up to all that a
peripheral emits (`Descriptor.emissions`).
-/

namespace AvrSetup

/-! ## Templates -/

/-- The text of a segment, empty for a placeholder that nothing fills. -/
def Segment.fill (parameters : Parameters) : Segment → String
  | literal text => text
  | placeholder name => (parameters.get? name).getD ""

/-- The text of a template. -/
def Template.fill (template : Template) (parameters : Parameters) : String :=
  String.join (template.segments.map (Segment.fill parameters))

/-- Some parameters fill every placeholder of a template. -/
def Parameters.Fills (parameters : Parameters) (template : Template) : Prop :=
  ∀ name ∈ template.placeholders, parameters.contains name = true

/-- The first placeholder of a template that some parameters do not fill. -/
def Parameters.unfilled? (parameters : Parameters) (template : Template) : Option String :=
  template.placeholders.find? fun name => !parameters.contains name

/-- A segment is rendered if its placeholder has a parameter. -/
theorem Segment.render_eq_ok_iff {parameters : Parameters} {segment : Segment} {text : String} :
    segment.render parameters = .ok text ↔
      (∀ name, segment.placeholder? = some name → parameters.contains name = true) ∧
        text = segment.fill parameters := by
  cases segment with
  | literal content =>
    constructor
    · rintro ⟨⟩
      exact ⟨nofun, rfl⟩
    · rintro ⟨-, rfl⟩
      rfl
  | placeholder name =>
    cases hfound : parameters.get? name with
    | none => simp [render, placeholder?, SortedMap.contains, hfound]
    | some found =>
      simp only [render, placeholder?, fill, SortedMap.contains, hfound, Option.some.injEq,
        forall_eq', Option.isSome_some, true_and, Option.getD_some, Except.ok.injEq]
      exact eq_comm

/-- A template is rendered if all of its placeholders have parameters. -/
theorem Template.render_eq_ok_iff {parameters : Parameters} {template : Template} {text : String} :
    template.render parameters = .ok text ↔
      parameters.Fills template ∧ text = template.fill parameters := by
  have hsegments (texts : List String) :
      template.segments.mapM (Segment.render parameters) = .ok texts ↔
        (∀ segment ∈ template.segments, ∀ name, segment.placeholder? = some name →
          parameters.contains name = true) ∧
        texts = template.segments.map (Segment.fill parameters) :=
    mapM_eq_ok_iff fun _ _ _ => Segment.render_eq_ok_iff
  have hfills : parameters.Fills template ↔ ∀ segment ∈ template.segments, ∀ name,
      segment.placeholder? = some name → parameters.contains name = true := by
    simp only [Parameters.Fills, placeholders, List.mem_filterMap]
    grind
  simp only [render, map_eq_ok_iff, hsegments, hfills]
  constructor
  · rintro ⟨_, ⟨hbound, rfl⟩, rfl⟩
    exact ⟨hbound, rfl⟩
  · rintro ⟨hbound, rfl⟩
    exact ⟨_, ⟨hbound, rfl⟩, rfl⟩

/-- A segment is not rendered if it is a placeholder without a parameter. -/
theorem Segment.render_eq_error_iff {parameters : Parameters} {segment : Segment} {name : String} :
    segment.render parameters = .error name ↔ segment.placeholder?.bind
      (Option.guard fun name => !parameters.contains name) = some name := by
  cases segment with
  | literal text => exact ⟨nofun, nofun⟩
  | placeholder other =>
    cases hfound : parameters.get? other with
    | none => simp [render, placeholder?, SortedMap.contains, hfound, Option.guard]
    | some found => simp [render, placeholder?, SortedMap.contains, hfound, Option.guard]

/-- A template is not rendered if a placeholder has no parameter, and the first such one is
named. -/
theorem Template.render_eq_error_iff {parameters : Parameters} {template : Template}
    {name : String} :
    template.render parameters = .error name ↔ parameters.unfilled? template = some name := by
  rw [render, map_eq_error_iff, mapM_eq_error_iff fun _ _ _ => Segment.render_eq_error_iff,
    Parameters.unfilled?, placeholders, List.find?_eq_findSome?_guard, ← List.head?_filterMap,
    ← List.head?_filterMap, List.filterMap_filterMap]

/-! ## The clock -/

/-- The parameters with the frequency of the clock, if it is known. -/
def Parameters.clocked (parameters : Parameters) (clock : Option Nat) : Parameters :=
  match clock with
  | some frequency => parameters.insert clockParameter (toString frequency)
  | none => parameters

/-- For a template that does not ask for the clock, it does not matter whether it is known. -/
theorem Parameters.get?_withClock {parameters : Parameters} {clock : Option Nat}
    {templates : List Template} {template : Template} (htemplate : template ∈ templates)
    {name : String} (hname : name ∈ template.placeholders) :
    (parameters.withClock clock templates).get? name = (parameters.clocked clock).get? name := by
  cases clock with
  | none => rfl
  | some frequency =>
    simp only [withClock, clocked]
    split
    · rfl
    · next hmentions =>
      have hne : name ≠ clockParameter := by
        rintro rfl
        refine hmentions (List.any_eq_true.mpr ⟨template, htemplate, ?_⟩)
        exact List.contains_iff_mem.mpr hname
      rw [SortedMap.get?_insert, if_neg hne]

/-- The placeholders of a template decide the text that comes out. -/
theorem Template.fill_congr {template : Template} {parameters other : Parameters}
    (h : ∀ name ∈ template.placeholders, parameters.get? name = other.get? name) :
    template.fill parameters = template.fill other := by
  unfold fill
  congr 1
  refine List.map_congr_left fun segment hsegment => ?_
  cases segment with
  | literal text => rfl
  | placeholder name =>
    have hname : name ∈ template.placeholders :=
      List.mem_filterMap.mpr ⟨.placeholder name, hsegment, rfl⟩
    simp only [Segment.fill, h name hname]

/-- Templates filled in with parameters and the clock. -/
def filledLines (clock : Option Nat) (parameters : Parameters) (templates : List Template) :
    List String :=
  templates.map fun template => template.fill (parameters.clocked clock)

/-- A list of templates is rendered if all of their placeholders have parameters. -/
theorem Descriptor.renderLines_eq_ok_iff {descriptor : Descriptor} {clock : Option Nat}
    {label : String} {templates : List Template} {parameters : Parameters}
    {lines : List String} :
    descriptor.renderLines clock label templates parameters = .ok lines ↔
      (∀ template ∈ templates, (parameters.clocked clock).Fills template) ∧
        lines = filledLines clock parameters templates := by
  have hsame {template : Template} (htemplate : template ∈ templates) {name : String}
      (hname : name ∈ template.placeholders) :
      (parameters.withClock clock templates).get? name = (parameters.clocked clock).get? name :=
    Parameters.get?_withClock htemplate hname
  refine (mapM_eq_ok_iff fun _ _ _ =>
    mapError_eq_ok_iff.trans Template.render_eq_ok_iff).trans (and_congr ?_ ?_)
  · refine forall₂_congr fun template htemplate => forall₂_congr fun name hname => ?_
    rw [SortedMap.contains, SortedMap.contains, hsame htemplate hname]
  · rw [filledLines, List.map_congr_left fun template htemplate =>
      Template.fill_congr fun name hname => hsame htemplate hname]

/-! ## Jobs -/

/-- All placeholders of a job have parameters. -/
def Job.IsFilled (clock : Option Nat) : Job → Prop
  | .group set parameters => ∀ line ∈ set.lines, (parameters.clocked clock).Fills line
  | .interrupt source parameters =>
    ∀ line ∈ source.enable ++ source.handler, (parameters.clocked clock).Fills line

namespace Descriptor

/-- What a job emits. -/
def emission (descriptor : Descriptor) (clock : Option Nat) (arguments : List String) :
    Job → Emission
  | .group set parameters =>
    ⟨descriptor.fragmentFor arguments set.routine (filledLines clock parameters set.lines),
      set.includes, none⟩
  | .interrupt interrupt parameters =>
    ⟨descriptor.fragmentFor arguments none (filledLines clock parameters interrupt.enable), [],
      some ⟨interrupt.vector, interrupt.label, filledLines clock parameters interrupt.handler⟩⟩

/-- A job is rendered if all of its placeholders have parameters. -/
theorem renderJob_eq_ok_iff {descriptor : Descriptor} {clock : Option Nat}
    {arguments : List String} {job : Job} {emission : Emission} :
    descriptor.renderJob clock arguments job = .ok emission ↔
      job.IsFilled clock ∧ emission = descriptor.emission clock arguments job := by
  cases job with
  | group set parameters =>
    simp only [renderJob, bind_eq_ok_iff, renderLines_eq_ok_iff]
    constructor
    · rintro ⟨_, ⟨hfilled, rfl⟩, heq⟩
      cases heq
      exact ⟨hfilled, rfl⟩
    · rintro ⟨hfilled, rfl⟩
      exact ⟨_, ⟨hfilled, rfl⟩, rfl⟩
  | interrupt interrupt parameters =>
    simp only [renderJob, bind_eq_ok_iff, renderLines_eq_ok_iff, Job.IsFilled,
      List.forall_mem_append]
    constructor
    · rintro ⟨_, ⟨henable, rfl⟩, _, ⟨hhandler, rfl⟩, heq⟩
      cases heq
      exact ⟨⟨henable, hhandler⟩, rfl⟩
    · rintro ⟨⟨henable, hhandler⟩, rfl⟩
      exact ⟨_, ⟨henable, rfl⟩, _, ⟨hhandler, rfl⟩, rfl⟩

/-- What the init routine of a peripheral is called with, if every parameter has a setting. -/
def argumentsUnder (descriptor : Descriptor) (settings : Settings) : List String :=
  descriptor.signature.parameters.map fun parameter =>
    ((settings.get? parameter.field).map Value.cText).getD ""

/-- The arguments are found if every parameter has a setting. -/
theorem callArguments_eq_ok_iff {descriptor : Descriptor} {settings : Settings}
    {arguments : List String} :
    descriptor.callArguments settings = .ok arguments ↔
      (∀ parameter ∈ descriptor.signature.parameters,
        settings.contains parameter.field = true) ∧
        arguments = descriptor.argumentsUnder settings := by
  refine mapM_eq_ok_iff fun parameter _ argument => ?_
  cases hfound : settings.get? parameter.field with
  | none => simp [SortedMap.contains, hfound]
  | some value =>
    simp only [SortedMap.contains, hfound, Option.isSome_some, true_and, Option.map_some,
      Option.getD_some, Except.ok.injEq]
    exact eq_comm

/-! ## Peripherals -/

/-- Everything that the code of a state asks for has a value. -/
def IsSupplied (descriptor : Descriptor) (state : State) (clock : Option Nat) : Prop :=
  (∀ parameter ∈ descriptor.signature.parameters,
    (descriptor.peripheralSettings state).contains parameter.field = true) ∧
  ∀ job ∈ descriptor.jobs state, job.IsFilled clock

/-- What the init routine of a peripheral is called with under a state. -/
def argumentsOf (descriptor : Descriptor) (state : State) : List String :=
  descriptor.argumentsUnder (descriptor.peripheralSettings state)

/-- All that a peripheral emits under a state, in order. -/
def emissions (descriptor : Descriptor) (state : State) (clock : Option Nat) : List Emission :=
  (descriptor.jobs state).map (descriptor.emission clock (descriptor.argumentsOf state))

/-- An active peripheral is expanded if everything that its code asks for has a value. -/
theorem expand_eq_ok_iff {descriptor : Descriptor} {state : State} {clock : Option Nat}
    {expansion : Expansion} (hactive : state.isActive = true) :
    descriptor.expand state clock = .ok expansion ↔ descriptor.IsSupplied state clock ∧
      expansion = .ofEmissions descriptor.id (descriptor.emissions state clock) := by
  have hjobs (arguments : List String) (emissions : List Emission) :
      (descriptor.jobs state).mapM (descriptor.renderJob clock arguments) = .ok emissions ↔
        (∀ job ∈ descriptor.jobs state, job.IsFilled clock) ∧
          emissions = (descriptor.jobs state).map (descriptor.emission clock arguments) :=
    mapM_eq_ok_iff fun _ _ _ => renderJob_eq_ok_iff
  simp only [expand, if_pos hactive, bind_eq_ok_iff, callArguments_eq_ok_iff, hjobs]
  constructor
  · rintro ⟨_, ⟨harguments, rfl⟩, _, ⟨hfilled, rfl⟩, heq⟩
    cases heq
    exact ⟨⟨harguments, hfilled⟩, rfl⟩
  · rintro ⟨⟨harguments, hfilled⟩, rfl⟩
    exact ⟨_, ⟨harguments, rfl⟩, _, ⟨hfilled, rfl⟩, rfl⟩

end Descriptor

end AvrSetup
