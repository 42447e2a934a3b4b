import AvrSetup.Proofs.Assembly

/-!
# Which expansions go together

Expansions are put together piece by piece: one after the other, and in each of them the fragments
before the handlers. Two pieces clash if they declare or call a routine in two ways, or handle a
vector in two ways. This file proves that expansions can be put together exactly if no two of
their pieces clash, and that otherwise the first piece is refused that clashes with an earlier one
(`assembled_or_first_clash`). What comes out can be told from the pieces alone
(`Artifact.IsAssembledFrom`).
-/

namespace AvrSetup

/-! ## Clashes -/

namespace Routine

/-- Why a second contribution to a routine does not go with a first one, if it does not. -/
def clash? (first second : Routine) : Option CodeFailure :=
  if first.name ≠ second.name then none
  else if first.parameterList ≠ second.parameterList then
    some (.conflictingSignature second.name first.parameterList second.parameterList)
  else if first.arguments ≠ second.arguments then
    some (.conflictingArguments second.name (String.intercalate ", " first.arguments)
      (String.intercalate ", " second.arguments))
  else none

/-- Contributions clash unless they are to different routines, or declared and called alike. -/
theorem clash?_eq_none_iff {first second : Routine} :
    first.clash? second = none ↔
      (first.name = second.name → first.interface = second.interface) := by
  unfold clash? interface
  by_cases hname : first.name = second.name <;>
    by_cases hparameters : first.parameterList = second.parameterList <;>
      by_cases harguments : first.arguments = second.arguments <;>
        simp [hname, hparameters, harguments]

/-- The lines of the first contribution do not matter for a clash. -/
theorem clash?_congr {first other : Routine} (hname : first.name = other.name)
    (hinterface : first.interface = other.interface) (second : Routine) :
    first.clash? second = other.clash? second := by
  obtain ⟨hparameters, harguments⟩ := Prod.mk.inj hinterface
  unfold clash?
  rw [hname, hparameters, harguments]

end Routine

/-- Why a second handler does not go with a first one, if it does not. -/
def Handler.clash? (first second : Handler) : Option CodeFailure :=
  if first.vector = second.vector ∧ first.lines ≠ second.lines then
    some (.conflictingHandler second.vector)
  else none

/-- Handlers clash unless they are for different vectors or do the same. -/
theorem Handler.clash?_eq_none_iff {first second : Handler} :
    first.clash? second = none ↔ (first.vector = second.vector → first.lines = second.lines) := by
  unfold clash?
  by_cases hvector : first.vector = second.vector <;>
    by_cases hlines : first.lines = second.lines <;> simp [hvector, hlines]

/-- A fragment is refused if it clashes with the routine of its name. -/
theorem Fragment.mergeInto_eq_error_iff {fragment : Fragment} {routines : List Routine}
    {failure : CodeFailure} :
    fragment.mergeInto routines = .error failure ↔
      ∃ first, Routine.named? fragment.routine.name routines = some first ∧
        first.clash? fragment.routine = some failure := by
  induction routines with
  | nil => simp [mergeInto, Routine.named?]
  | cons head rest ih =>
    by_cases h : head.name = fragment.routine.name
    · have hfirst : Routine.named? fragment.routine.name (head :: rest) = some head := by
        simp [Routine.named?, h]
      simp only [hfirst, Option.some.injEq, exists_eq_left', mergeInto, if_pos h]
      unfold Routine.clash?
      by_cases hparameters : head.parameterList = fragment.routine.parameterList
      · by_cases harguments : head.arguments = fragment.routine.arguments
        · simp [h, hparameters, harguments]
        · simp [h, hparameters, harguments]
      · simp [h, hparameters]
    · have hfirst : Routine.named? fragment.routine.name (head :: rest) =
          Routine.named? fragment.routine.name rest := by
        simp [Routine.named?, h]
      simp only [mergeInto, if_neg h, hfirst, map_eq_error_iff, ih]

/-- A handler is refused if it clashes with the one for its vector. -/
theorem Handler.mergeInto_eq_error_iff {handler : Handler} {handlers : List Handler}
    {failure : CodeFailure} :
    handler.mergeInto handlers = .error failure ↔
      ∃ first, for? handler.vector handlers = some first ∧ first.clash? handler = some failure := by
  unfold mergeInto
  cases hfound : handlers.find? fun earlier => earlier.vector == handler.vector with
  | none => simp [for?, hfound]
  | some first =>
    have hvector : first.vector = handler.vector := by simpa using List.find?_some hfound
    by_cases hlines : first.lines = handler.lines
    · simp [for?, hfound, clash?, hlines]
    · simp [for?, hfound, clash?, hvector, hlines]

/-! ## Pieces -/

/-- What is put together one by one: lines for a routine, or a handler. -/
inductive Piece where
  /-- Lines for a routine. -/
  | fragment (fragment : Fragment)
  /-- A handler. -/
  | handler (handler : Handler)

/-- The pieces of an expansion, in the order in which they are put together. -/
def Expansion.pieces (expansion : Expansion) : List Piece :=
  expansion.fragments.map .fragment ++ expansion.handlers.map .handler

/-- The handlers of expansions are those among their pieces. -/
theorem Expansion.handler_mem_pieces {expansions : List Expansion} {body : Handler} :
    .handler body ∈ expansions.flatMap pieces ↔ body ∈ expansions.flatMap handlers := by
  simp [pieces]

namespace Piece

/-- The fragment that a piece is. -/
def fragment? : Piece → Option Fragment
  | fragment lines => some lines
  | handler _ => none

/-- The handler that a piece is. -/
def handler? : Piece → Option Handler
  | fragment _ => none
  | handler body => some body

/-- Why a second piece does not go with a first one, if it does not. Lines for a routine always
go with a handler. -/
def clash? : Piece → Piece → Option CodeFailure
  | fragment first, fragment second => first.routine.clash? second.routine
  | handler first, handler second => first.clash? second
  | _, _ => none

/-- No two of some pieces clash. -/
def GoTogether (pieces : List Piece) : Prop :=
  ∀ first ∈ pieces, ∀ second ∈ pieces, first.clash? second = none

/-- The fragments of some pieces are those among them. -/
theorem mem_filterMap_fragment? {pieces : List Piece} {lines : Fragment} :
    lines ∈ pieces.filterMap fragment? ↔ fragment lines ∈ pieces := by
  rw [List.mem_filterMap]
  constructor
  · rintro ⟨piece, hpiece, heq⟩
    cases piece with
    | fragment other => exact Option.some.inj heq ▸ hpiece
    | handler body => cases heq
  · intro hpiece
    exact ⟨_, hpiece, rfl⟩

/-- The handlers of some pieces are those among them. -/
theorem mem_filterMap_handler? {pieces : List Piece} {body : Handler} :
    body ∈ pieces.filterMap handler? ↔ handler body ∈ pieces := by
  rw [List.mem_filterMap]
  constructor
  · rintro ⟨piece, hpiece, heq⟩
    cases piece with
    | fragment lines => cases heq
    | handler other => exact Option.some.inj heq ▸ hpiece
  · intro hpiece
    exact ⟨_, hpiece, rfl⟩

/-- Pieces go together if their fragments and their handlers do. -/
theorem goTogether_iff {pieces : List Piece} :
    GoTogether pieces ↔ Routine.Consistent ((pieces.filterMap fragment?).map Fragment.routine) ∧
      Handler.Consistent (pieces.filterMap handler?) := by
  constructor
  · intro htogether
    constructor
    · intro first hfirst second hsecond hname
      obtain ⟨left, hleft, rfl⟩ := List.mem_map.mp hfirst
      obtain ⟨right, hright, rfl⟩ := List.mem_map.mp hsecond
      have hnone : left.routine.clash? right.routine = none :=
        htogether _ (mem_filterMap_fragment?.mp hleft) _ (mem_filterMap_fragment?.mp hright)
      exact Routine.clash?_eq_none_iff.mp hnone hname
    · intro first hfirst second hsecond hvector
      have hnone : first.clash? second = none :=
        htogether _ (mem_filterMap_handler?.mp hfirst) _ (mem_filterMap_handler?.mp hsecond)
      exact Handler.clash?_eq_none_iff.mp hnone hvector
  · rintro ⟨hroutines, hhandlers⟩ first hfirst second hsecond
    cases first with
    | fragment left =>
      cases second with
      | fragment right =>
        have hleft := mem_filterMap_fragment?.mpr hfirst
        have hright := mem_filterMap_fragment?.mpr hsecond
        exact Routine.clash?_eq_none_iff.mpr
          (hroutines _ (List.mem_map_of_mem hleft) _ (List.mem_map_of_mem hright))
      | handler right => rfl
    | handler left =>
      cases second with
      | fragment right => rfl
      | handler right =>
        have hleft := mem_filterMap_handler?.mpr hfirst
        have hright := mem_filterMap_handler?.mpr hsecond
        exact Handler.clash?_eq_none_iff.mpr (hhandlers _ hleft _ hright)

/-- Put a piece to those that have been put together. -/
def mergeInto (piece : Piece) (merged : List Routine × List Handler) :
    Except CodeFailure (List Routine × List Handler) :=
  match piece with
  | fragment lines => (lines.mergeInto merged.1).map fun routines => (routines, merged.2)
  | handler body => (body.mergeInto merged.2).map fun handlers => (merged.1, handlers)

/-- Put pieces one by one to those that have been put together. -/
def mergeAll (pieces : List Piece) (merged : List Routine × List Handler) :
    Except CodeFailure (List Routine × List Handler) :=
  pieces.foldlM (fun merged piece => piece.mergeInto merged) merged

theorem mergeAll_append (first second : List Piece) (merged : List Routine × List Handler) :
    mergeAll (first ++ second) merged = mergeAll first merged >>= mergeAll second :=
  List.foldlM_append

/-- Fragments leave the handlers as they are. -/
theorem mergeAll_fragments (fragments : List Fragment) (routines : List Routine)
    (handlers : List Handler) :
    mergeAll (fragments.map fragment) (routines, handlers) =
      (fragments.foldlM (fun routines (lines : Fragment) => lines.mergeInto routines) routines).map
        fun routines => (routines, handlers) := by
  induction fragments generalizing routines with
  | nil => rfl
  | cons head rest ih =>
    unfold mergeAll at ih ⊢
    rw [List.map_cons, List.foldlM_cons, List.foldlM_cons, mergeInto]
    cases head.mergeInto routines with
    | error failure => rfl
    | ok next => exact ih next

/-- Handlers leave the routines as they are. -/
theorem mergeAll_handlers (bodies : List Handler) (routines : List Routine)
    (handlers : List Handler) :
    mergeAll (bodies.map handler) (routines, handlers) =
      (bodies.foldlM (fun handlers (body : Handler) => body.mergeInto handlers) handlers).map
        fun handlers => (routines, handlers) := by
  induction bodies generalizing handlers with
  | nil => rfl
  | cons head rest ih =>
    unfold mergeAll at ih ⊢
    rw [List.map_cons, List.foldlM_cons, List.foldlM_cons, mergeInto]
    cases head.mergeInto handlers with
    | error failure => rfl
    | ok next => exact ih next

/-- Pieces can be put together if their fragments and their handlers can. -/
theorem mergeAll_eq_ok_iff {pieces : List Piece} {routines : List Routine}
    {handlers : List Handler} :
    mergeAll pieces ([], []) = .ok (routines, handlers) ↔
      (pieces.filterMap fragment?).foldlM
        (fun routines (lines : Fragment) => lines.mergeInto routines) [] = .ok routines ∧
      (pieces.filterMap handler?).foldlM
        (fun handlers (body : Handler) => body.mergeInto handlers) [] = .ok handlers := by
  induction pieces using List.reverseRecOn generalizing routines handlers with
  | nil => simp [mergeAll, pure, Except.pure]
  | append_singleton pieces piece ih =>
    have hlast (merged : List Routine × List Handler) :
        mergeAll [piece] merged = piece.mergeInto merged := by
      simp [mergeAll]
    cases piece with
    | fragment lines =>
      have hfragments : (pieces ++ [fragment lines]).filterMap fragment? =
          pieces.filterMap fragment? ++ [lines] := List.filterMap_append
      have hbodies : (pieces ++ [fragment lines]).filterMap handler? =
          pieces.filterMap handler? := by simp [handler?]
      simp only [mergeAll_append, hlast, hfragments, hbodies, List.foldlM_append, List.foldlM_cons,
        List.foldlM_nil, bind_pure, bind_eq_ok_iff, Prod.exists, ih, mergeInto, map_eq_ok_iff,
        Prod.mk.injEq]
      constructor
      · rintro ⟨before, _, ⟨hroutines, hhandlers⟩, _, hstep, rfl, rfl⟩
        exact ⟨⟨before, hroutines, hstep⟩, hhandlers⟩
      · rintro ⟨⟨before, hroutines, hstep⟩, hhandlers⟩
        exact ⟨before, _, ⟨hroutines, hhandlers⟩, _, hstep, rfl, rfl⟩
    | handler body =>
      have hfragments : (pieces ++ [handler body]).filterMap fragment? =
          pieces.filterMap fragment? := by simp [fragment?]
      have hbodies : (pieces ++ [handler body]).filterMap handler? =
          pieces.filterMap handler? ++ [body] := List.filterMap_append
      simp only [mergeAll_append, hlast, hfragments, hbodies, List.foldlM_append, List.foldlM_cons,
        List.foldlM_nil, bind_pure, bind_eq_ok_iff, Prod.exists, ih, mergeInto, map_eq_ok_iff,
        Prod.mk.injEq]
      constructor
      · rintro ⟨_, before, ⟨hroutines, hhandlers⟩, _, hstep, rfl, rfl⟩
        exact ⟨hroutines, before, hhandlers, hstep⟩
      · rintro ⟨hroutines, before, hhandlers, hstep⟩
        exact ⟨_, before, ⟨hroutines, hhandlers⟩, _, hstep, rfl, rfl⟩

/-- A run that fails does so at the first piece that clashes with an earlier one. -/
theorem exists_clash_of_mergeAll {pieces : List Piece} {failure : CodeFailure}
    (hrun : mergeAll pieces ([], []) = .error failure) :
    ∃ earlier piece later, pieces = earlier ++ piece :: later ∧ GoTogether earlier ∧
      ∃ other ∈ earlier, other.clash? piece = some failure := by
  obtain ⟨earlier, piece, later, ⟨routines, handlers⟩, hpieces, hearlier, hstep⟩ :=
    exists_step_of_foldlM_eq_error hrun
  obtain ⟨hfragments, hbodies⟩ := mergeAll_eq_ok_iff.mp hearlier
  obtain ⟨hconsistent, rfl⟩ := Fragment.foldlM_mergeInto_eq_ok_iff.mp hfragments
  obtain ⟨hsame, rfl⟩ := Handler.foldlM_mergeInto_eq_ok_iff.mp hbodies
  refine ⟨earlier, piece, later, hpieces, goTogether_iff.mpr ⟨hconsistent, hsame⟩, ?_⟩
  cases piece with
  | fragment lines =>
    -- The routine that refuses the fragment was opened by an earlier one.
    obtain ⟨first, hfirst, hclash⟩ := Fragment.mergeInto_eq_error_iff.mp (map_eq_error_iff.mp hstep)
    obtain ⟨opening, hopening, hname, hinterface⟩ :=
      Routine.exists_of_mem_gather (List.mem_of_find?_eq_some hfirst)
    obtain ⟨other, hother, rfl⟩ := List.mem_map.mp hopening
    refine ⟨fragment other, mem_filterMap_fragment?.mp hother, ?_⟩
    rw [← hclash]
    exact Routine.clash?_congr hname hinterface _
  | handler body =>
    obtain ⟨first, hfirst, hclash⟩ := Handler.mergeInto_eq_error_iff.mp (map_eq_error_iff.mp hstep)
    rw [Handler.for?_gather] at hfirst
    exact ⟨handler first, mem_filterMap_handler?.mp (List.mem_of_find?_eq_some hfirst), hclash⟩

end Piece

namespace Assembly

/-- The routines and the handlers that have been put together. -/
def merged (assembly : Assembly) : List Routine × List Handler :=
  (assembly.routines, assembly.handlers)

/-- An expansion is added piece by piece. -/
theorem map_merged_add (assembly : Assembly) (expansion : Expansion) :
    (assembly.add expansion).map merged = Piece.mergeAll expansion.pieces assembly.merged := by
  unfold add Expansion.pieces merged
  rw [Piece.mergeAll_append, Piece.mergeAll_fragments]
  cases expansion.fragments.foldlM (fun routines (lines : Fragment) => lines.mergeInto routines)
      assembly.routines with
  | error failure => rfl
  | ok routines =>
    change _ = Piece.mergeAll _ (routines, assembly.handlers)
    rw [Piece.mergeAll_handlers]
    cases expansion.handlers.foldlM (fun handlers (body : Handler) => body.mergeInto handlers)
        assembly.handlers with
    | error failure => rfl
    | ok handlers => rfl

/-- Expansions are added piece by piece. -/
theorem map_merged_foldlM_add (assembly : Assembly) (expansions : List Expansion) :
    (expansions.foldlM add assembly).map merged =
      Piece.mergeAll (expansions.flatMap Expansion.pieces) assembly.merged := by
  induction expansions generalizing assembly with
  | nil => rfl
  | cons head rest ih =>
    have hhead := map_merged_add assembly head
    rw [List.foldlM_cons, List.flatMap_cons, Piece.mergeAll_append, ← hhead]
    cases assembly.add head with
    | error failure => rfl
    | ok next => exact ih next

/-- Expansions that cannot be put together are refused at the first piece that clashes with an
earlier one. -/
theorem exists_clash_of_foldlM_add {expansions : List Expansion} {failure : CodeFailure}
    (hrun : expansions.foldlM add empty = .error failure) :
    ∃ earlier piece later, expansions.flatMap Expansion.pieces = earlier ++ piece :: later ∧
      Piece.GoTogether earlier ∧ ∃ other ∈ earlier, other.clash? piece = some failure := by
  have hmerged : (expansions.foldlM add empty).map merged = .error failure :=
    map_eq_error_iff.mpr hrun
  rw [map_merged_foldlM_add] at hmerged
  exact Piece.exists_clash_of_mergeAll hmerged

/-- The headers of expansions that are put together are those of each of them. -/
theorem mem_includes_ofExpansions {expansions : List Expansion} {file : String} :
    file ∈ (ofExpansions expansions).includes.toList ↔
      ∃ expansion ∈ expansions, file ∈ expansion.includes.toList := by
  induction expansions using List.reverseRecOn with
  | nil => simp [ofExpansions, SortedSet.toList, SortedMap.keys, EmptyCollection.emptyCollection,
      SortedMap.empty]
  | append_singleton expansions expansion ih =>
    unfold ofExpansions at ih ⊢
    simp only [List.foldl_append, List.foldl_cons, List.foldl_nil, SortedSet.mem_toList_union, ih]
    constructor
    · rintro (⟨earlier, hearlier, hfile⟩ | hfile)
      · exact ⟨earlier, List.mem_append_left _ hearlier, hfile⟩
      · exact ⟨expansion, List.mem_append_right _ (List.mem_singleton.mpr rfl), hfile⟩
    · rintro ⟨other, hother, hfile⟩
      rcases List.mem_append.mp hother with hearlier | hlast
      · exact Or.inl ⟨other, hearlier, hfile⟩
      · exact Or.inr (List.mem_singleton.mp hlast ▸ hfile)

end Assembly

/-! ## What comes out -/

/-- Only a routine without parameters is declared like one. -/
theorem Signature.parameterList_eq_iff {signature : Signature} :
    signature.parameterList = Routine.noParameters ↔ signature.parameters = [] := by
  unfold parameterList
  constructor
  · intro hlist
    by_contra hne
    rw [if_neg hne] at hlist
    -- A type and a name stand with a blank between them, and there is none in the word.
    have hblank : ' ' ∈ (String.intercalate ", "
        (signature.parameters.map fun p => p.cType ++ " " ++ p.name)).toList := by
      obtain ⟨head, rest, hparameters⟩ := List.exists_cons_of_ne_nil hne
      rw [hparameters]
      cases rest with
      | nil => simp
      | cons next rest => simp [String.intercalate_cons_cons]
    rw [hlist] at hblank
    exact absurd hblank (by decide)
  · intro hnil
    rw [if_pos hnil]
    rfl

/-- An artifact is what comes out when expansions are put together. Routines and handlers stand
in the order of their first contribution. -/
structure Artifact.IsAssembledFrom (artifact : Artifact) (name : String)
    (expansions : List Expansion) : Prop where
  /-- It is for the device of a name. -/
  device : artifact.device = name
  /-- It does not say when it was made. -/
  timestamp : artifact.timestamp = none
  /-- There is a routine for each name that fragments are for. -/
  names : artifact.initRoutines.map Routine.name =
    ((expansions.flatMap Expansion.fragments).map fun fragment =>
      fragment.signature.name).eraseDups
  /-- A routine is declared and called like all fragments for it. -/
  interfaces : ∀ routine ∈ artifact.initRoutines,
    ∀ fragment ∈ expansions.flatMap Expansion.fragments, fragment.signature.name = routine.name →
      routine.parameterList = fragment.signature.parameterList ∧
        routine.arguments = fragment.arguments
  /-- It has the lines of all fragments for it, in order. -/
  lines : ∀ routine ∈ artifact.initRoutines, routine.lines =
    ((expansions.flatMap Expansion.fragments).filter fun fragment =>
      fragment.signature.name == routine.name).flatMap Fragment.lines
  /-- There is a handler for each vector that has any. -/
  vectors : artifact.handlers.map Handler.vector =
    ((expansions.flatMap Expansion.handlers).map Handler.vector).eraseDups
  /-- It is the first one for the vector. -/
  handlers : ∀ handler ∈ artifact.handlers, ((expansions.flatMap Expansion.handlers).find?
    fun other => other.vector == handler.vector) = some handler
  /-- One more routine calls all others in order, and then lets interrupts through if there are
  handlers. -/
  aggregate : artifact.aggregate = ⟨"init_peripherals", "void", [],
    artifact.initRoutines.map Routine.call ++
      if artifact.handlers = [] then [] else ["sei();"]⟩
  /-- The headers are those of the registers, those of the expansions, and those of numbers and
  of interrupts where these are needed. -/
  includes : ∀ file, file ∈ artifact.includes.toList ↔ file = "avr/io.h" ∨
    (∃ expansion ∈ expansions, file ∈ expansion.includes.toList) ∨
    (file = "stdint.h" ∧
      ∃ fragment ∈ expansions.flatMap Expansion.fragments, fragment.signature.parameters ≠ []) ∨
    (file = "avr/interrupt.h" ∧ artifact.handlers ≠ [])

namespace Artifact.IsAssembledFrom

variable {artifact : Artifact} {name : String} {expansions : List Expansion}

/-- There is a routine for every fragment. -/
theorem exists_routine (h : artifact.IsAssembledFrom name expansions) {fragment : Fragment}
    (hfragment : fragment ∈ expansions.flatMap Expansion.fragments) :
    ∃ routine ∈ artifact.initRoutines, routine.name = fragment.signature.name := by
  have hname : fragment.signature.name ∈ artifact.initRoutines.map Routine.name := by
    rw [h.names, List.mem_eraseDups]
    exact List.mem_map_of_mem hfragment
  exact List.mem_map.mp hname

/-- There is a fragment for every routine. -/
theorem exists_fragment (h : artifact.IsAssembledFrom name expansions) {routine : Routine}
    (hroutine : routine ∈ artifact.initRoutines) :
    ∃ fragment ∈ expansions.flatMap Expansion.fragments,
      fragment.signature.name = routine.name := by
  have hname : routine.name ∈ artifact.initRoutines.map Routine.name :=
    List.mem_map_of_mem hroutine
  rw [h.names, List.mem_eraseDups] at hname
  exact List.mem_map.mp hname

/-- There is a handler for the vector of every handler that is contributed. -/
theorem exists_handler (h : artifact.IsAssembledFrom name expansions) {handler : Handler}
    (hhandler : handler ∈ expansions.flatMap Expansion.handlers) :
    ∃ other ∈ artifact.handlers, other.vector = handler.vector := by
  have hvector : handler.vector ∈ artifact.handlers.map Handler.vector := by
    rw [h.vectors, List.mem_eraseDups]
    exact List.mem_map_of_mem hhandler
  exact List.mem_map.mp hvector

/-- A handler that comes out is one of those that are contributed. -/
theorem mem_handlers (h : artifact.IsAssembledFrom name expansions) {handler : Handler}
    (hhandler : handler ∈ artifact.handlers) :
    handler ∈ expansions.flatMap Expansion.handlers :=
  List.mem_of_find?_eq_some (h.handlers handler hhandler)

end Artifact.IsAssembledFrom

namespace Assembly

variable {expansions : List Expansion}

/-- The routines of expansions are those of all fragments. -/
theorem flatMap_routines (expansions : List Expansion) :
    expansions.flatMap Expansion.routines =
      (expansions.flatMap Expansion.fragments).map Fragment.routine :=
  List.map_flatMap.symm

/-- A routine that comes out of consistent expansions is declared and called like all fragments
for it. -/
theorem interface_of_mem_ofExpansions
    (hconsistent : Routine.Consistent (expansions.flatMap Expansion.routines)) {routine : Routine}
    (hroutine : routine ∈ (ofExpansions expansions).routines) {fragment : Fragment}
    (hfragment : fragment ∈ expansions.flatMap Expansion.fragments)
    (hname : fragment.signature.name = routine.name) :
    routine.interface = fragment.routine.interface := by
  obtain ⟨first, hfirst, hfirstName, hinterface⟩ := Routine.exists_of_mem_gather hroutine
  have hmem : fragment.routine ∈ expansions.flatMap Expansion.routines := by
    rw [flatMap_routines]
    exact List.mem_map_of_mem hfragment
  rw [← hinterface]
  exact hconsistent first hfirst _ hmem (hfirstName.trans hname.symm)

/-- Some routine of consistent expansions takes parameters if some fragment is for one that does. -/
theorem takesParameters_ofExpansions
    (hconsistent : Routine.Consistent (expansions.flatMap Expansion.routines)) :
    (ofExpansions expansions).routines.any Routine.takesParameters = true ↔
      ∃ fragment ∈ expansions.flatMap Expansion.fragments, fragment.signature.parameters ≠ [] := by
  have htakes {routine : Routine} {fragment : Fragment}
      (hinterface : routine.interface = fragment.routine.interface) :
      routine.takesParameters = true ↔ fragment.signature.parameters ≠ [] := by
    have hlist : routine.parameterList = fragment.signature.parameterList :=
      congrArg Prod.fst hinterface
    rw [Routine.takesParameters, hlist, bne_iff_ne, ne_eq, Signature.parameterList_eq_iff]
  rw [List.any_eq_true]
  constructor
  · rintro ⟨routine, hroutine, hparameters⟩
    obtain ⟨first, hfirst, -, hinterface⟩ := Routine.exists_of_mem_gather hroutine
    rw [flatMap_routines] at hfirst
    obtain ⟨fragment, hfragment, rfl⟩ := List.mem_map.mp hfirst
    exact ⟨fragment, hfragment, (htakes hinterface.symm).mp hparameters⟩
  · rintro ⟨fragment, hfragment, hparameters⟩
    have hmem : fragment.routine ∈ expansions.flatMap Expansion.routines := by
      rw [flatMap_routines]
      exact List.mem_map_of_mem hfragment
    obtain ⟨routine, hroutine, hname, -⟩ := Routine.exists_mem_gather hmem
    have hinterface := interface_of_mem_ofExpansions hconsistent hroutine hfragment hname.symm
    exact ⟨routine, hroutine, (htakes hinterface).mpr hparameters⟩

/-- What comes out of consistent expansions is assembled from them. -/
theorem isAssembledFrom (hconsistent : Routine.Consistent (expansions.flatMap Expansion.routines))
    (name : String) :
    ((ofExpansions expansions).artifact name).IsAssembledFrom name expansions where
  device := rfl
  timestamp := rfl
  names := by
    change (Routine.gather (expansions.flatMap Expansion.routines)).map Routine.name = _
    rw [Routine.map_name_gather, flatMap_routines, List.map_map]
    rfl
  interfaces := by
    intro routine hroutine fragment hfragment hname
    exact Prod.mk.inj (interface_of_mem_ofExpansions hconsistent hroutine hfragment hname)
  lines := by
    intro routine hroutine
    have hfound := Routine.named?_eq_some (Routine.nodup_map_name_gather _) hroutine
    rw [Routine.named?_gather] at hfound
    obtain ⟨first, -, heq⟩ := Option.map_eq_some_iff.mp hfound
    have hlines : routine.lines =
        Routine.linesUnder routine.name (expansions.flatMap Expansion.routines) :=
      (congrArg Routine.lines heq).symm
    rw [hlines, flatMap_routines, Routine.linesUnder, List.filter_map, List.flatMap_map]
    rfl
  vectors := Handler.map_vector_gather _
  handlers := by
    intro handler hhandler
    have hfound := find?_key_eq_some (Handler.nodup_map_vector_gather _) hhandler
    have hfirst := Handler.for?_gather (expansions.flatMap Expansion.handlers) handler.vector
    exact hfirst.symm.trans hfound
  aggregate := by
    simp [artifact, aggregate, Routine.noParameters]
  includes := by
    intro file
    have hown : file ∈ (ofExpansions expansions).ownIncludes ↔ file = "avr/io.h" ∨
        (file = "stdint.h" ∧ (ofExpansions expansions).routines.any Routine.takesParameters) ∨
        (file = "avr/interrupt.h" ∧ (ofExpansions expansions).handlers ≠ []) := by
      unfold ownIncludes
      by_cases hroutines : (ofExpansions expansions).routines.any Routine.takesParameters = true <;>
        by_cases hhandlers : (ofExpansions expansions).handlers = [] <;>
          simp [hroutines, hhandlers]
    rw [takesParameters_ofExpansions hconsistent] at hown
    change file ∈ ((ofExpansions expansions).includes.union _).toList ↔ _
    rw [SortedSet.mem_toList_union, SortedSet.mem_toList_ofList, mem_includes_ofExpansions, hown]
    exact or_left_comm

end Assembly

/-! ## Success and failure -/

/-- No two fragments for a routine are declared or called differently, and no two handlers for a
vector do different things. -/
structure Compatible (expansions : List Expansion) : Prop where
  /-- Fragments of one name have the same parameters and arguments. -/
  fragments : ∀ first ∈ expansions.flatMap Expansion.fragments,
    ∀ second ∈ expansions.flatMap Expansion.fragments,
      first.signature.name = second.signature.name →
        first.signature.parameterList = second.signature.parameterList ∧
          first.arguments = second.arguments
  /-- Handlers for one vector have the same lines. -/
  handlers : ∀ first ∈ expansions.flatMap Expansion.handlers,
    ∀ second ∈ expansions.flatMap Expansion.handlers,
      first.vector = second.vector → first.lines = second.lines

/-- Expansions are compatible if their routines and their handlers are consistent. -/
theorem compatible_iff {expansions : List Expansion} :
    Compatible expansions ↔ Routine.Consistent (expansions.flatMap Expansion.routines) ∧
      Handler.Consistent (expansions.flatMap Expansion.handlers) := by
  rw [Assembly.flatMap_routines]
  constructor
  · intro hcompatible
    refine ⟨?_, hcompatible.handlers⟩
    intro first hfirst second hsecond hname
    obtain ⟨left, hleft, rfl⟩ := List.mem_map.mp hfirst
    obtain ⟨right, hright, rfl⟩ := List.mem_map.mp hsecond
    obtain ⟨hparameters, harguments⟩ := hcompatible.fragments left hleft right hright hname
    exact Prod.ext hparameters harguments
  · rintro ⟨hroutines, hhandlers⟩
    refine ⟨?_, hhandlers⟩
    intro first hfirst second hsecond hname
    have hinterface : first.routine.interface = second.routine.interface :=
      hroutines _ (List.mem_map_of_mem hfirst) _ (List.mem_map_of_mem hsecond) hname
    exact Prod.mk.inj hinterface

/-- Expansions are put together if they are compatible. -/
theorem assemble_eq_ok_iff {name : String} {expansions : List Expansion} {artifact : Artifact} :
    assemble name expansions = .ok artifact ↔ Compatible expansions ∧
      artifact = (Assembly.ofExpansions expansions).artifact name := by
  rw [assemble, map_eq_ok_iff, compatible_iff]
  simp only [Assembly.foldlM_add_eq_ok_iff]
  constructor
  · rintro ⟨_, ⟨hroutines, hhandlers, rfl⟩, rfl⟩
    exact ⟨⟨hroutines, hhandlers⟩, rfl⟩
  · rintro ⟨⟨hroutines, hhandlers⟩, rfl⟩
    exact ⟨_, ⟨hroutines, hhandlers, rfl⟩, rfl⟩

/-- What is put together from expansions is assembled from them. -/
theorem isAssembledFrom_of_assemble {name : String} {expansions : List Expansion}
    {artifact : Artifact} (hassemble : assemble name expansions = .ok artifact) :
    artifact.IsAssembledFrom name expansions := by
  obtain ⟨hcompatible, rfl⟩ := assemble_eq_ok_iff.mp hassemble
  exact Assembly.isAssembledFrom (compatible_iff.mp hcompatible).1 name

/-- Expansions are put together exactly if they are compatible, and then the artifact is assembled
from them. Otherwise the first piece is refused that clashes with an earlier one, going through
the expansions in order and in each of them through the fragments before the handlers. -/
theorem assembled_or_first_clash (name : String) (expansions : List Expansion) :
    ((∃ artifact, assemble name expansions = .ok artifact) ↔ Compatible expansions) ∧
    (∀ artifact, assemble name expansions = .ok artifact →
      artifact.IsAssembledFrom name expansions) ∧
    ∀ failure, assemble name expansions = .error failure →
      ∃ earlier piece later, expansions.flatMap Expansion.pieces = earlier ++ piece :: later ∧
        Piece.GoTogether earlier ∧ ∃ other ∈ earlier, other.clash? piece = some failure := by
  refine ⟨?_, fun artifact => isAssembledFrom_of_assemble, ?_⟩
  · simp only [assemble_eq_ok_iff, exists_and_left, exists_eq, and_true]
  · intro failure hassemble
    exact Assembly.exists_clash_of_foldlM_add (map_eq_error_iff.mp hassemble)

end AvrSetup
