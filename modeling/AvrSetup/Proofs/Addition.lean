import AvrSetup.Proofs.Compatibility
import AvrSetup.Proofs.Totality
import Mathlib.Data.List.Flatten

/-!
# One more peripheral

A peripheral that is added to a configuration contributes at its own place, and leaves the
contributions of all others as they are. So the code without it is part of the code with it
(`Device.generates_without_addition`). It need not be a beginning of it: the new peripheral may
open a routine that others share before they do. Plain pins and pin-change interrupts are left
out, as their pins are pooled.
-/

namespace AvrSetup

/-- The code of an artifact is found in a larger one: its routines are declared and called alike
there and have all of their lines in the same order, and its handlers do the same. -/
structure Artifact.IsPartOf (artifact larger : Artifact) : Prop where
  /-- Every routine is part of one in the larger artifact. -/
  routines : ∀ routine ∈ artifact.initRoutines, ∃ other ∈ larger.initRoutines,
    other.name = routine.name ∧ other.parameterList = routine.parameterList ∧
      other.arguments = routine.arguments ∧ routine.lines.Sublist other.lines
  /-- Every handler is there. -/
  handlers : ∀ handler ∈ artifact.handlers, ∃ other ∈ larger.handlers,
    other.vector = handler.vector ∧ other.lines = handler.lines
  /-- Every header is included there. -/
  includes : ∀ file ∈ artifact.includes.toList, file ∈ larger.includes.toList

/-! ## Leaving out expansions -/

section

variable {name : String} {expansions all : List Expansion} {artifact larger : Artifact}

/-- Compatible expansions stay so when some are left out. -/
theorem Compatible.sublist (hcompatible : Compatible all) (hsublist : expansions.Sublist all) :
    Compatible expansions := by
  obtain ⟨hroutines, hhandlers⟩ := compatible_iff.mp hcompatible
  rw [compatible_iff]
  constructor
  · exact Determines.of_subset hroutines (hsublist.flatMap Expansion.routines).subset
  · exact Determines.of_subset hhandlers (hsublist.flatMap Expansion.handlers).subset

/-- A routine that is assembled from some expansions is part of the one that is assembled from all
of them. -/
theorem Artifact.IsAssembledFrom.exists_larger_routine
    (h : artifact.IsAssembledFrom name expansions) (hall : larger.IsAssembledFrom name all)
    (hsublist : expansions.Sublist all) {routine : Routine}
    (hroutine : routine ∈ artifact.initRoutines) :
    ∃ other ∈ larger.initRoutines, other.name = routine.name ∧
      other.parameterList = routine.parameterList ∧ other.arguments = routine.arguments ∧
      routine.lines.Sublist other.lines := by
  have hfragments := hsublist.flatMap Expansion.fragments
  obtain ⟨fragment, hfragment, hname⟩ := h.exists_fragment hroutine
  have hmem : fragment ∈ all.flatMap Expansion.fragments := hfragments.subset hfragment
  obtain ⟨other, hother, hotherName⟩ := hall.exists_routine hmem
  have hsame : other.name = routine.name := hotherName.trans hname
  -- Both are declared and called like the fragment.
  obtain ⟨hparameters, harguments⟩ := h.interfaces routine hroutine fragment hfragment hname
  obtain ⟨hotherParameters, hotherArguments⟩ :=
    hall.interfaces other hother fragment hmem hotherName.symm
  refine ⟨other, hother, hsame, hotherParameters.trans hparameters.symm,
    hotherArguments.trans harguments.symm, ?_⟩
  rw [h.lines routine hroutine, hall.lines other hother, hsame]
  exact (hfragments.filter _).flatMap Fragment.lines

/-- What is assembled from some of compatible expansions is part of what is assembled from all
of them. -/
theorem Artifact.IsAssembledFrom.isPartOf (h : artifact.IsAssembledFrom name expansions)
    (hall : larger.IsAssembledFrom name all) (hsublist : expansions.Sublist all)
    (hcompatible : Compatible all) : artifact.IsPartOf larger := by
  have hfragments := (hsublist.flatMap Expansion.fragments).subset
  have hhandlers := (hsublist.flatMap Expansion.handlers).subset
  have hvectors {handler : Handler} (hhandler : handler ∈ artifact.handlers) :
      ∃ other ∈ larger.handlers, other.vector = handler.vector :=
    hall.exists_handler (hhandlers (h.mem_handlers hhandler))
  constructor
  · intro routine hroutine
    exact h.exists_larger_routine hall hsublist hroutine
  · intro handler hhandler
    obtain ⟨other, hother, hvector⟩ := hvectors hhandler
    have hlines : other.lines = handler.lines :=
      hcompatible.handlers other (hall.mem_handlers hother) handler
        (hhandlers (h.mem_handlers hhandler)) hvector
    exact ⟨other, hother, hvector, hlines⟩
  · intro file hfile
    rw [hall.includes]
    rcases (h.includes file).mp hfile with hfile | ⟨expansion, hexpansion, hfile⟩ |
      ⟨hfile, fragment, hfragment, hparameters⟩ | ⟨hfile, hsome⟩
    · exact Or.inl hfile
    · exact Or.inr (Or.inl ⟨expansion, hsublist.subset hexpansion, hfile⟩)
    · have hmem := hfragments hfragment
      exact Or.inr (Or.inr (Or.inl ⟨hfile, fragment, hmem, hparameters⟩))
    · obtain ⟨handler, hhandler⟩ := List.exists_mem_of_ne_nil _ hsome
      obtain ⟨other, hother, -⟩ := hvectors hhandler
      exact Or.inr (Or.inr (Or.inr ⟨hfile, List.ne_nil_of_mem hother⟩))

/-- If expansions can be put together, so can some of them, and what comes out is part of the
whole. -/
theorem exists_isPartOf_of_sublist (hsublist : expansions.Sublist all)
    (hassemble : assemble name all = .ok larger) :
    ∃ artifact, assemble name expansions = .ok artifact ∧ artifact.IsPartOf larger := by
  have hcompatible := (assemble_eq_ok_iff.mp hassemble).1
  have hpart : assemble name expansions =
      .ok ((Assembly.ofExpansions expansions).artifact name) :=
    assemble_eq_ok_iff.mpr ⟨hcompatible.sublist hsublist, rfl⟩
  exact ⟨_, hpart, (isAssembledFrom_of_assemble hpart).isPartOf
    (isAssembledFrom_of_assemble hassemble) hsublist hcompatible⟩

end

/-! ## Configurations with one more peripheral -/

/-- A function that gives fewer results, but no other ones, gives a sublist. -/
theorem filterMap_sublist_filterMap {α β : Type} {f g : α → Option β} {list : List α}
    (h : ∀ member ∈ list, f member = none ∨ f member = g member) :
    (list.filterMap f).Sublist (list.filterMap g) := by
  induction list with
  | nil => exact .slnil
  | cons head rest ih =>
    obtain ⟨hhead, hrest⟩ := List.forall_mem_cons.mp h
    have hsublist := ih hrest
    rcases hhead with hnone | hsame
    · rw [List.filterMap_cons_none hnone]
      cases hresult : g head with
      | none => rwa [List.filterMap_cons_none hresult]
      | some result =>
        rw [List.filterMap_cons_some hresult]
        exact hsublist.cons result
    · cases hresult : g head with
      | none => rwa [List.filterMap_cons_none (hsame.trans hresult),
          List.filterMap_cons_none hresult]
      | some result =>
        rw [List.filterMap_cons_some (hsame.trans hresult), List.filterMap_cons_some hresult]
        exact hsublist.cons_cons result

namespace Device

variable {device : Device} {configuration : Configuration} {id : Peripheral} {state : State}

/-- The states of other peripherals stay. -/
theorem get?_insert_of_ne {other : Peripheral} (hother : other ≠ id) :
    (configuration.insert id state).get? other = configuration.get? other := by
  rw [SortedMap.get?_insert, if_neg hother]

/-- The pins that are watched stay. -/
theorem expansion?_insert (hgpio : id ≠ .gpio) (hpcint : id ≠ .pcint) :
    PinChange.expansion? device (configuration.insert id state) =
      PinChange.expansion? device configuration := by
  have hpins {other : Peripheral} (hother : other ≠ id) :
      PinChange.configuredPins device (configuration.insert id state) other =
        PinChange.configuredPins device configuration other := by
    rw [PinChange.configuredPins, PinChange.configuredPins, get?_insert_of_ne hother]
  have hrequests : PinChange.requests device (configuration.insert id state) =
      PinChange.requests device configuration := by
    rw [PinChange.requests, PinChange.requests, PinChange.explicitRequests,
      PinChange.explicitRequests, PinChange.flaggedRequests, PinChange.flaggedRequests,
      hpins hgpio.symm, hpins hpcint.symm]
  rw [PinChange.expansion?, PinChange.expansion?, hrequests]

/-- What is contributed at a place stays. -/
theorem stageExpansions_insert (hgpio : id ≠ .gpio) (hpcint : id ≠ .pcint) (clock : Option Nat)
    (stage : Stage) :
    device.stageExpansions (configuration.insert id state) clock stage =
      device.stageExpansions configuration clock stage := by
  cases stage with
  | peripheral descriptor other => rfl
  | pinChange => rw [stageExpansions, stageExpansions, expansion?_insert hgpio hpcint]

/-- The contributions stay in order, and those of the new peripheral come in between. -/
theorem stages_sublist_insert (hpcint : id ≠ .pcint) (hfree : configuration.get? id = none) :
    (device.stages configuration).Sublist (device.stages (configuration.insert id state)) := by
  have hstage (descriptor : Descriptor) : descriptor.stage? configuration = none ∨
      descriptor.stage? configuration =
        descriptor.stage? (configuration.insert id state) := by
    unfold Descriptor.stage?
    by_cases hid : descriptor.id = id
    · have hown : ¬descriptor.id.feedsPinChange = true := by
        rw [hid, Peripheral.feedsPinChange, beq_iff_eq]
        exact hpcint
      left
      rw [if_neg hown, hid, hfree]
      rfl
    · right
      rw [get?_insert_of_ne hid]
  apply List.Sublist.append_right
  apply filterMap_sublist_filterMap
  intro descriptor _
  exact hstage descriptor

/-- If there is code with one more peripheral, then there is code without it, and that is part of
the code with it. -/
theorem generates_without_addition {clock : Option Nat} {larger : Artifact} (hgpio : id ≠ .gpio)
    (hpcint : id ≠ .pcint) (hfree : configuration.get? id = none)
    (hgenerate : device.generate (configuration.insert id state) clock = .ok larger) :
    ∃ artifact, device.generate configuration clock = .ok artifact ∧
      artifact.IsPartOf larger := by
  obtain ⟨hsupplied, hassemble⟩ := generate_eq_ok_iff_assemble.mp hgenerate
  have hstages : (device.stages configuration).Sublist
      (device.stages (configuration.insert id state)) := stages_sublist_insert hpcint hfree
  have hsublist := hstages.flatMap (device.stageExpansions configuration (clock <|> device.clock))
  have hsame : device.stageExpansions (configuration.insert id state) (clock <|> device.clock) =
      device.stageExpansions configuration (clock <|> device.clock) :=
    funext fun stage => stageExpansions_insert hgpio hpcint _ stage
  rw [hsame] at hassemble
  obtain ⟨artifact, hpart, hisPartOf⟩ := exists_isPartOf_of_sublist hsublist hassemble
  refine ⟨artifact, generate_eq_ok_iff_assemble.mpr ⟨?_, hpart⟩, hisPartOf⟩
  intro stage hstage
  exact hsupplied stage (hstages.subset hstage)

end Device

namespace Atmega328p

/-- A timer and the converter. -/
def converterConfiguration : Configuration :=
  SortedMap.ofList
    [(.timer0, .pinBound (.ofList [(pinAt .d 6, ∅)]) (.ofList [("mode", .text "CTC")]) ∅),
      (.adc, .pinBound (.ofList [(pinAt .c 0, ∅), (pinAt .c 1, ∅)]) ∅ ∅)]

/-- The comparator, with its interrupt. -/
def comparatorState : State :=
  .pinBound (.ofList [(pinAt .d 7, ∅)]) ∅ (.ofList [("compare", true)])

/-- The comparator adds to a routine of the converter. -/
theorem generates_without_comparator :
    ∃ larger, device.generate (converterConfiguration.insert .comparator comparatorState) none =
        .ok larger ∧
      ∃ artifact, device.generate converterConfiguration none = .ok artifact ∧
        artifact.IsPartOf larger := by
  have hclean : ∀ diagnostic ∈ device.check
      (converterConfiguration.insert .comparator comparatorState), diagnostic.isError = false := by
    decide +kernel
  obtain ⟨larger, hlarger⟩ := Device.exists_artifact_of_isClean isSelfContained hclean none
  exact ⟨larger, hlarger, Device.generates_without_addition (by decide) (by decide)
    (by decide +kernel) hlarger⟩

end Atmega328p

end AvrSetup
