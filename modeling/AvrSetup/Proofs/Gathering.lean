import AvrSetup.Code.Assembly
import Mathlib.Data.List.Induction
import Mathlib.Data.List.Nodup

/-!
# Contributions put together

Lines for a routine are put together twice: within a peripheral, and then across
peripherals. Both times a contribution goes behind the earlier ones of its name, or opens
a new place at the end. This file describes the result of such a run by the contributions
alone: its names are theirs in the order of their first appearance, and the lines under a
name are all of theirs in order. Handlers are put together in the same way, except that a
second one for a vector adds nothing.
-/

namespace AvrSetup

/-! ## First appearances -/

/-- A name is new to a list, or does not change its first appearances. -/
theorem eraseDups_concat (list : List String) (name : String) :
    (list ++ [name]).eraseDups =
      if name ∈ list then list.eraseDups else list.eraseDups ++ [name] := by
  rw [List.eraseDups_append]
  split
  · next hmem => simp [List.removeAll, hmem]
  · next hmem =>
    have hnew : [name].removeAll list = [name] := by simp [List.removeAll, hmem]
    rw [hnew]
    rfl

/-- First appearances are all different. -/
theorem nodup_eraseDups (list : List String) : list.eraseDups.Nodup := by
  induction list using List.reverseRecOn with
  | nil => exact List.nodup_nil
  | append_singleton list name ih =>
    rw [eraseDups_concat]
    split
    · exact ih
    · next hmem =>
      refine List.nodup_append.mpr ⟨ih, by simp, ?_⟩
      rintro earlier hearlier _ hname rfl
      obtain rfl := List.mem_singleton.mp hname
      exact hmem (List.mem_eraseDups.mp hearlier)

/-! ## Values that keys determine -/

/-- Members of a list with the same key have the same value. -/
def Determines {α β : Type} (key : α → String) (value : α → β) (list : List α) : Prop :=
  ∀ first ∈ list, ∀ second ∈ list, key first = key second → value first = value second

/-- Keys determine values if some function gives these. -/
theorem Determines.of_function {α β : Type} {key : α → String} {value : α → β} {list : List α}
    (f : String → β) (h : ∀ member ∈ list, value member = f (key member)) :
    Determines key value list := by
  intro first hfirst second hsecond hkey
  rw [h first hfirst, h second hsecond, hkey]

/-- Keys still determine values if some members are left out. -/
theorem Determines.of_subset {α β : Type} {key : α → String} {value : α → β} {list more : List α}
    (h : Determines key value more) (hsubset : list ⊆ more) : Determines key value list := by
  intro first hfirst second hsecond hkey
  exact h first (hsubset hfirst) second (hsubset hsecond) hkey

/-- Where no key is repeated, each member is found under its key. -/
theorem find?_key_eq_some {α κ : Type} [DecidableEq κ] {key : α → κ} {list : List α}
    (hnodup : (list.map key).Nodup) {member : α} (h : member ∈ list) :
    (list.find? fun other => key other == key member) = some member := by
  have hsome : (list.find? fun other => key other == key member).isSome = true :=
    List.find?_isSome.mpr ⟨member, h, beq_self_eq_true _⟩
  obtain ⟨other, hother⟩ := Option.isSome_iff_exists.mp hsome
  have hkey : key other = key member := by simpa using List.find?_some hother
  rw [hother, List.inj_on_of_nodup_map hnodup (List.mem_of_find?_eq_some hother) h hkey]

/-- One more member has to have the value of the first one with its key. -/
theorem determines_concat_iff {α β : Type} {key : α → String} {value : α → β} {list : List α}
    {member : α} :
    Determines key value (list ++ [member]) ↔ Determines key value list ∧
      ∀ first, (list.find? fun other => key other == key member) = some first →
        value first = value member := by
  constructor
  · intro h
    refine ⟨fun first hfirst second hsecond => ?_, fun first hfirst => ?_⟩
    · exact h first (List.mem_append_left _ hfirst) second (List.mem_append_left _ hsecond)
    · have hkey : key first = key member := by simpa using List.find?_some hfirst
      exact h first (List.mem_append_left _ (List.mem_of_find?_eq_some hfirst)) member
        (List.mem_append_right _ List.mem_cons_self) hkey
  · rintro ⟨hlist, hmember⟩
    have hsame : ∀ other ∈ list, key other = key member → value other = value member := by
      intro other hother hkey
      have hsome : (list.find? fun other => key other == key member).isSome = true :=
        List.find?_isSome.mpr ⟨other, hother, beq_iff_eq.mpr hkey⟩
      obtain ⟨first, hfirst⟩ := Option.isSome_iff_exists.mp hsome
      have hfirstKey : key first = key member := by simpa using List.find?_some hfirst
      calc value other = value first :=
            hlist other hother first (List.mem_of_find?_eq_some hfirst)
              (hkey.trans hfirstKey.symm)
        _ = value member := hmember first hfirst
    intro first hfirst second hsecond hkey
    rcases List.mem_append.mp hfirst with hleft | hleft <;>
      rcases List.mem_append.mp hsecond with hright | hright
    · exact hlist first hleft second hright hkey
    · obtain rfl := List.mem_singleton.mp hright
      exact hsame first hleft hkey
    · obtain rfl := List.mem_singleton.mp hleft
      exact (hsame second hright hkey.symm).symm
    · rw [List.mem_singleton.mp hleft, List.mem_singleton.mp hright]

/-! ## Routines -/

namespace Routine

/-- The lines for the routine of a name, in order. -/
def linesUnder (name : String) (contributions : List Routine) : List String :=
  (contributions.filter fun contribution => contribution.name == name).flatMap Routine.lines

@[simp] theorem linesUnder_nil (name : String) : linesUnder name [] = [] := rfl

@[simp] theorem linesUnder_append (name : String) (first second : List Routine) :
    linesUnder name (first ++ second) = linesUnder name first ++ linesUnder name second := by
  simp [linesUnder]

theorem linesUnder_singleton (name : String) (contribution : Routine) :
    linesUnder name [contribution] =
      if contribution.name = name then contribution.lines else [] := by
  by_cases h : contribution.name = name <;> simp [linesUnder, h]

/-- Put lines behind those for the same routine, or at the end if there are none. -/
def addTo (contribution : Routine) : List Routine → List Routine
  | [] => [contribution]
  | head :: rest =>
    if head.name = contribution.name then
      { head with lines := head.lines ++ contribution.lines } :: rest
    else head :: contribution.addTo rest

/-- The first routine of a name. -/
def named? (name : String) (routines : List Routine) : Option Routine :=
  routines.find? fun routine => routine.name == name

/-- The contributions put together one by one. -/
def gather (contributions : List Routine) : List Routine :=
  contributions.foldl (fun routines contribution => contribution.addTo routines) []

theorem gather_concat (contributions : List Routine) (contribution : Routine) :
    gather (contributions ++ [contribution]) = contribution.addTo (gather contributions) := by
  rw [gather, List.foldl_append]
  rfl

/-- A contribution changes the routine of its own name only. -/
theorem named?_addTo (contribution : Routine) (routines : List Routine) (name : String) :
    named? name (contribution.addTo routines) =
      if contribution.name = name then
        some (match named? name routines with
          | some first => { first with lines := first.lines ++ contribution.lines }
          | none => contribution)
      else named? name routines := by
  induction routines with
  | nil => by_cases h : contribution.name = name <;> simp [addTo, named?, h]
  | cons head rest ih =>
    unfold named? at ih ⊢
    by_cases hhead : head.name = contribution.name
    · by_cases h : contribution.name = name <;> simp [addTo, hhead, h]
    · by_cases h : head.name = name
      · have hne : contribution.name ≠ name := fun heq => hhead (h.trans heq.symm)
        simp [addTo, h, hne, hne.symm]
      · simp [addTo, hhead, h, ih]

/-- A contribution adds its name at the end if it is new. -/
theorem map_name_addTo (contribution : Routine) (routines : List Routine) :
    (contribution.addTo routines).map Routine.name =
      if contribution.name ∈ routines.map Routine.name then routines.map Routine.name
      else routines.map Routine.name ++ [contribution.name] := by
  induction routines with
  | nil => simp [addTo]
  | cons head rest ih =>
    by_cases hhead : head.name = contribution.name
    · simp [addTo, hhead]
    · simp only [addTo, if_neg hhead, List.map_cons, ih, List.mem_cons, Ne.symm hhead, false_or]
      split <;> rfl

/-- The names that come out are those of the contributions, as they first appear. -/
theorem map_name_gather (contributions : List Routine) :
    (gather contributions).map Routine.name = (contributions.map Routine.name).eraseDups := by
  induction contributions using List.reverseRecOn with
  | nil => rfl
  | append_singleton contributions contribution ih =>
    rw [gather_concat, map_name_addTo, ih, List.map_append, List.map_singleton, eraseDups_concat]
    simp only [List.mem_eraseDups]

/-- No name comes out twice. -/
theorem nodup_map_name_gather (contributions : List Routine) :
    ((gather contributions).map Routine.name).Nodup := by
  rw [map_name_gather]
  exact nodup_eraseDups _

/-- There are no lines for a routine that is not there. -/
theorem linesUnder_eq_nil_of_named?_eq_none {name : String} {contributions : List Routine}
    (h : named? name contributions = none) : linesUnder name contributions = [] := by
  rw [linesUnder, List.filter_eq_nil_iff.mpr (List.find?_eq_none.mp h)]
  rfl

/-- The routine that comes out for a name is the first one contributed, with all lines under
the name. -/
theorem named?_gather (contributions : List Routine) (name : String) :
    named? name (gather contributions) = (named? name contributions).map fun first =>
      { first with lines := linesUnder name contributions } := by
  induction contributions using List.reverseRecOn with
  | nil => rfl
  | append_singleton contributions contribution ih =>
    rw [gather_concat, named?_addTo, ih, linesUnder_append, linesUnder_singleton]
    by_cases h : contribution.name = name
    · subst h
      cases hfirst : named? contribution.name contributions with
      | some first =>
        unfold named? at hfirst
        simp [named?, hfirst]
      | none =>
        rw [linesUnder_eq_nil_of_named?_eq_none hfirst]
        unfold named? at hfirst
        simp [named?, hfirst]
    · simp [named?, h, List.find?_append]

/-- Where no name is repeated, each routine is the only one of its name. -/
theorem filter_name_eq_toList {routines : List Routine}
    (hnodup : (routines.map Routine.name).Nodup) (name : String) :
    (routines.filter fun routine => routine.name == name) = (named? name routines).toList := by
  induction routines with
  | nil => rfl
  | cons head rest ih =>
    obtain ⟨hhead, hrest⟩ := List.nodup_cons.mp hnodup
    unfold named? at ih ⊢
    by_cases h : head.name = name
    · have hnone : (rest.filter fun routine => routine.name == name) = [] := by
        refine List.filter_eq_nil_iff.mpr fun routine hroutine heq => hhead ?_
        rw [h, ← beq_iff_eq.mp heq]
        exact List.mem_map_of_mem hroutine
      simp [h, hnone]
    · simp [h, ih hrest]

/-- Where no name is repeated, each routine is found under its name. -/
theorem named?_eq_some {routines : List Routine} (hnodup : (routines.map Routine.name).Nodup)
    {routine : Routine} (h : routine ∈ routines) : named? routine.name routines = some routine :=
  find?_key_eq_some hnodup h

/-- Lines under a name are neither lost nor added when they are put together. -/
theorem linesUnder_gather (name : String) (contributions : List Routine) :
    linesUnder name (gather contributions) = linesUnder name contributions := by
  rw [linesUnder, filter_name_eq_toList (nodup_map_name_gather contributions), named?_gather]
  cases hfirst : named? name contributions with
  | some first => simp
  | none => exact (linesUnder_eq_nil_of_named?_eq_none hfirst).symm

/-- Lines are gathered piece by piece or all at once, the same lines come out. -/
theorem linesUnder_flatMap_gather {α : Type} (name : String) (pieces : List α)
    (contributions : α → List Routine) :
    linesUnder name (pieces.flatMap fun piece => gather (contributions piece)) =
      linesUnder name (pieces.flatMap contributions) := by
  induction pieces with
  | nil => rfl
  | cons head rest ih =>
    rw [List.flatMap_cons, List.flatMap_cons, linesUnder_append, linesUnder_append,
      linesUnder_gather, ih]

/-- If no contribution is without lines, no routine that comes out is. -/
theorem lines_ne_nil_of_mem_gather {contributions : List Routine}
    (hlines : ∀ contribution ∈ contributions, contribution.lines ≠ []) {routine : Routine}
    (h : routine ∈ gather contributions) : routine.lines ≠ [] := by
  have hfound := named?_eq_some (nodup_map_name_gather contributions) h
  rw [named?_gather] at hfound
  obtain ⟨first, hfirst, heq⟩ := Option.map_eq_some_iff.mp hfound
  have hmem := List.mem_of_find?_eq_some hfirst
  have hname := List.find?_some hfirst
  rw [← heq]
  intro hnil
  refine hlines first hmem (List.flatMap_eq_nil_iff.mp hnil first ?_)
  exact List.mem_filter.mpr ⟨hmem, hname⟩

/-- If no routine is without lines, one of a name is there exactly if there are lines for it,
and these are its lines. -/
theorem map_lines_filter_name {routines : List Routine}
    (hnodup : (routines.map Routine.name).Nodup)
    (hlines : ∀ routine ∈ routines, routine.lines ≠ []) (name : String) :
    (routines.filter fun routine => routine.name == name).map Routine.lines =
      if linesUnder name routines = [] then [] else [linesUnder name routines] := by
  rw [linesUnder, filter_name_eq_toList hnodup]
  cases hfound : named? name routines with
  | none => rfl
  | some routine => simp [hlines routine (List.mem_of_find?_eq_some hfound)]

/-- If there are lines under a name, there is a routine of the name that consists of them. -/
theorem exists_of_linesUnder_ne_nil {routines : List Routine}
    (hnodup : (routines.map Routine.name).Nodup) {name : String}
    (h : linesUnder name routines ≠ []) :
    ∃ routine ∈ routines, routine.name = name ∧ routine.lines = linesUnder name routines := by
  cases hfound : named? name routines with
  | none => exact absurd (linesUnder_eq_nil_of_named?_eq_none hfound) h
  | some routine =>
    refine ⟨routine, List.mem_of_find?_eq_some hfound, ?_, ?_⟩
    · simpa using List.find?_some hfound
    · rw [linesUnder, filter_name_eq_toList hnodup, hfound]
      exact (List.flatMap_singleton ..).symm

/-! ## Routines that go together -/

/-- How a routine is declared and called, apart from its name. -/
def interface (routine : Routine) : String × List String :=
  (routine.parameterList, routine.arguments)

/-- Contributions of one name are declared and called alike. -/
def Consistent (contributions : List Routine) : Prop :=
  Determines Routine.name interface contributions

/-- A routine that comes out is one that was contributed, up to its lines. -/
theorem exists_of_mem_gather {contributions : List Routine} {routine : Routine}
    (h : routine ∈ gather contributions) :
    ∃ first ∈ contributions, first.name = routine.name ∧ first.interface = routine.interface := by
  have hfound := named?_eq_some (nodup_map_name_gather contributions) h
  rw [named?_gather] at hfound
  obtain ⟨first, hfirst, heq⟩ := Option.map_eq_some_iff.mp hfound
  refine ⟨first, List.mem_of_find?_eq_some hfirst, ?_, ?_⟩
  · simpa using List.find?_some hfirst
  · rw [← heq]
    rfl

/-- Every contribution finds its name among the gathered routines, declared and called like
some contribution of this name. -/
theorem exists_mem_gather {contributions : List Routine} {contribution : Routine}
    (h : contribution ∈ contributions) :
    ∃ routine ∈ gather contributions, routine.name = contribution.name ∧
      ∃ first ∈ contributions, first.name = contribution.name ∧
        first.interface = routine.interface := by
  have hname : contribution.name ∈ (gather contributions).map Routine.name := by
    rw [map_name_gather, List.mem_eraseDups]
    exact List.mem_map_of_mem h
  obtain ⟨routine, hroutine, heq⟩ := List.mem_map.mp hname
  obtain ⟨first, hfirst, hfirstName, hinterface⟩ := exists_of_mem_gather hroutine
  exact ⟨routine, hroutine, heq, first, hfirst, hfirstName.trans heq, hinterface⟩

/-- Consistent contributions stay so when they are gathered piece by piece. -/
theorem Consistent.flatMap_gather {α : Type} {pieces : List α} {contributions : α → List Routine}
    (h : Consistent (pieces.flatMap contributions)) :
    Consistent (pieces.flatMap fun piece => gather (contributions piece)) := by
  intro first hfirst second hsecond hname
  obtain ⟨piece, hpiece, hfirst⟩ := List.mem_flatMap.mp hfirst
  obtain ⟨other, hother, hsecond⟩ := List.mem_flatMap.mp hsecond
  obtain ⟨left, hleft, hleftName, hleftInterface⟩ := exists_of_mem_gather hfirst
  obtain ⟨right, hright, hrightName, hrightInterface⟩ := exists_of_mem_gather hsecond
  rw [← hleftInterface, ← hrightInterface]
  exact h left (List.mem_flatMap.mpr ⟨piece, hpiece, hleft⟩) right
    (List.mem_flatMap.mpr ⟨other, hother, hright⟩) (by rw [hleftName, hname, hrightName])

end Routine

/-! ## Handlers -/

namespace Handler

/-- The first handler for a vector. -/
def for? (vector : String) (handlers : List Handler) : Option Handler :=
  handlers.find? fun handler => handler.vector == vector

/-- Put a handler at the end, unless there is one for its vector. -/
def addTo (handler : Handler) (handlers : List Handler) : List Handler :=
  if handler.vector ∈ handlers.map Handler.vector then handlers else handlers ++ [handler]

/-- The handlers put together one by one. -/
def gather (handlers : List Handler) : List Handler :=
  handlers.foldl (fun gathered handler => handler.addTo gathered) []

theorem gather_concat (handlers : List Handler) (handler : Handler) :
    gather (handlers ++ [handler]) = handler.addTo (gather handlers) := by
  rw [gather, List.foldl_append]
  rfl

/-- The vectors that come out are those that went in, as they first appear. -/
theorem map_vector_gather (handlers : List Handler) :
    (gather handlers).map Handler.vector = (handlers.map Handler.vector).eraseDups := by
  induction handlers using List.reverseRecOn with
  | nil => rfl
  | append_singleton handlers handler ih =>
    rw [gather_concat, addTo, ih, List.map_append, List.map_singleton, eraseDups_concat]
    simp only [List.mem_eraseDups]
    split
    · exact ih
    · rw [List.map_append, ih, List.map_singleton]

/-- No vector comes out twice. -/
theorem nodup_map_vector_gather (handlers : List Handler) :
    ((gather handlers).map Handler.vector).Nodup := by
  rw [map_vector_gather]
  exact nodup_eraseDups _

/-- A handler comes out for each vector for which there is one. -/
theorem mem_map_vector_gather {handlers : List Handler} {vector : String} :
    vector ∈ (gather handlers).map Handler.vector ↔ vector ∈ handlers.map Handler.vector := by
  rw [map_vector_gather, List.mem_eraseDups]

/-- A handler that comes out for a vector is the first of those for it. -/
theorem for?_gather (handlers : List Handler) (vector : String) :
    for? vector (gather handlers) = for? vector handlers := by
  induction handlers using List.reverseRecOn with
  | nil => rfl
  | append_singleton handlers handler ih =>
    unfold for? at ih ⊢
    rw [gather_concat, addTo, List.find?_append]
    split
    · next hmem =>
      rw [ih]
      cases hfound : handlers.find? fun other => other.vector == vector with
      | some first => rfl
      | none =>
        rw [mem_map_vector_gather] at hmem
        obtain ⟨other, hother, heq⟩ := List.mem_map.mp hmem
        have hne := List.find?_eq_none.mp hfound other hother
        rw [heq] at hne
        simp [hne]
    · rw [List.find?_append, ih]

/-- All handlers for one vector do the same. -/
def Consistent (handlers : List Handler) : Prop :=
  Determines Handler.vector Handler.lines handlers

end Handler

end AvrSetup
