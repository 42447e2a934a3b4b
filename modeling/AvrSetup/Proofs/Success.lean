/-!
# Runs of steps that may fail

Code is generated in steps that each succeed or fail. These lemmas say when a run of such
steps succeeds or fails, and with which result, given the same of a single step.
-/

namespace AvrSetup

variable {ε α β : Type}

/-- Two steps succeed if the first does, and the second does with its result. -/
theorem bind_eq_ok_iff {first : Except ε α} {second : α → Except ε β} {result : β} :
    first >>= second = .ok result ↔ ∃ value, first = .ok value ∧ second value = .ok result := by
  cases first with
  | error failure => simp [bind, Except.bind]
  | ok value => simp [bind, Except.bind]

/-- A result is turned into another one exactly if there is one. -/
theorem map_eq_ok_iff {step : Except ε α} {f : α → β} {result : β} :
    step.map f = .ok result ↔ ∃ value, step = .ok value ∧ f value = result := by
  cases step with
  | error failure => simp [Except.map]
  | ok value => simp [Except.map]

/-- Failures may be renamed without a change of the results. -/
theorem mapError_eq_ok_iff {ε' : Type} {step : Except ε α} {f : ε → ε'} {result : α} :
    step.mapError f = .ok result ↔ step = .ok result := by
  cases step with
  | error failure => exact ⟨nofun, nofun⟩
  | ok value =>
    constructor
    · rintro ⟨⟩
      rfl
    · rintro ⟨⟩
      rfl

/-- A step that may be refused first succeeds if it is not refused. -/
theorem unless_eq_ok_iff {refused : Prop} [Decidable refused] {failure : ε}
    {next : Unit → Except ε β} {result : β} :
    (if refused then throw failure >>= next else next ()) = .ok result ↔
      ¬refused ∧ next () = .ok result := by
  by_cases h : refused
  · rw [if_pos h]
    exact ⟨nofun, fun hboth => absurd h hboth.1⟩
  · rw [if_neg h]
    exact ⟨fun hnext => ⟨h, hnext⟩, fun hboth => hboth.2⟩

/-- A step for each member of a list succeeds if all of them do. -/
theorem mapM_eq_ok_iff {f : α → Except ε β} {p : α → Prop} {g : α → β} {list : List α}
    (hstep : ∀ member ∈ list, ∀ result, f member = .ok result ↔ p member ∧ result = g member)
    {results : List β} :
    list.mapM f = .ok results ↔ (∀ member ∈ list, p member) ∧ results = list.map g := by
  induction list generalizing results with
  | nil => simp [pure, Except.pure, eq_comm]
  | cons head rest ih =>
    obtain ⟨hhead, hrest⟩ := List.forall_mem_cons.mp hstep
    simp only [List.mapM_cons, bind_eq_ok_iff, hhead, ih hrest, List.forall_mem_cons,
      List.map_cons]
    constructor
    · rintro ⟨_, ⟨hp, rfl⟩, _, ⟨hps, rfl⟩, heq⟩
      cases heq
      exact ⟨⟨hp, hps⟩, rfl⟩
    · rintro ⟨⟨hp, hps⟩, rfl⟩
      exact ⟨_, ⟨hp, rfl⟩, _, ⟨hps, rfl⟩, rfl⟩

/-- If the steps for all members of a list succeed, the results of the run are theirs. -/
theorem exists_mapM_eq_ok {f : α → Except ε β} {list : List α}
    (hstep : ∀ member ∈ list, ∃ result, f member = .ok result) :
    ∃ results, list.mapM f = .ok results ∧
      ∀ result, result ∈ results ↔ ∃ member ∈ list, f member = .ok result := by
  induction list with
  | nil => exact ⟨[], rfl, by simp⟩
  | cons head rest ih =>
    obtain ⟨⟨first, hfirst⟩, hrest⟩ := List.forall_mem_cons.mp hstep
    obtain ⟨results, hresults, hmem⟩ := ih hrest
    refine ⟨first :: results, ?_, fun result => ?_⟩
    · rw [List.mapM_cons, hfirst, hresults]
      rfl
    · rw [List.mem_cons, hmem]
      constructor
      · rintro (rfl | ⟨member, hmember, hresult⟩)
        · exact ⟨head, List.mem_cons_self, hfirst⟩
        · exact ⟨member, List.mem_cons_of_mem _ hmember, hresult⟩
      · rintro ⟨member, hmember, hresult⟩
        rcases List.mem_cons.mp hmember with rfl | hmember
        · rw [hfirst] at hresult
          exact .inl (Except.ok.inj hresult).symm
        · exact .inr ⟨member, hmember, hresult⟩

/-- The steps for all members of a list succeed, or one of them fails and so does the run. -/
theorem mapM_ok_or_error (f : α → Except ε β) (list : List α) :
    (∀ member ∈ list, ∃ result, f member = .ok result) ∨
      ∃ member ∈ list, ∃ failure, f member = .error failure ∧ list.mapM f = .error failure := by
  induction list with
  | nil => exact .inl (List.forall_mem_nil _)
  | cons head rest ih =>
    cases hhead : f head with
    | error failure =>
      refine .inr ⟨head, List.mem_cons_self, failure, hhead, ?_⟩
      rw [List.mapM_cons, hhead]
      rfl
    | ok result =>
      rcases ih with hrest | ⟨member, hmember, failure, hfailure, hrun⟩
      · exact .inl (List.forall_mem_cons.mpr ⟨⟨result, hhead⟩, hrest⟩)
      · refine .inr ⟨member, List.mem_cons_of_mem head hmember, failure, hfailure, ?_⟩
        rw [List.mapM_cons, hhead, hrun]
        rfl

/-- What holds at first and is kept by every step holds of the result of a run. -/
theorem foldlM_invariant {f : β → α → Except ε β} {p : β → Prop}
    (hstep : ∀ state member next, p state → f state member = .ok next → p next)
    {list : List α} {first result : β} (hfirst : p first)
    (hrun : list.foldlM f first = .ok result) : p result := by
  induction list generalizing first with
  | nil =>
    cases hrun
    exact hfirst
  | cons head rest ih =>
    rw [List.foldlM_cons, bind_eq_ok_iff] at hrun
    obtain ⟨next, hhead, hrest⟩ := hrun
    exact ih (hstep first head next hfirst hhead) hrest

/-- Turning results into other ones neither adds nor changes a failure. -/
theorem map_eq_error_iff {step : Except ε α} {f : α → β} {failure : ε} :
    step.map f = .error failure ↔ step = .error failure := by
  cases step <;> simp [Except.map]

/-- A run that fails succeeds up to a step that fails in the same way. -/
theorem exists_step_of_foldlM_eq_error {f : β → α → Except ε β} {list : List α} {first : β}
    {failure : ε} (hrun : list.foldlM f first = .error failure) :
    ∃ earlier member later state, list = earlier ++ member :: later ∧
      earlier.foldlM f first = .ok state ∧ f state member = .error failure := by
  induction list generalizing first with
  | nil => cases hrun
  | cons head rest ih =>
    rw [List.foldlM_cons] at hrun
    cases hhead : f first head with
    | error cause =>
      rw [hhead] at hrun
      cases hrun
      exact ⟨[], head, rest, first, rfl, rfl, hhead⟩
    | ok next =>
      rw [hhead] at hrun
      obtain ⟨earlier, member, later, state, rfl, hearlier, hstep⟩ := ih hrun
      refine ⟨head :: earlier, member, later, state, rfl, ?_, hstep⟩
      rw [List.foldlM_cons, hhead]
      exact hearlier

/-- A step succeeds if it does not fail. -/
theorem exists_eq_ok_iff {step : Except ε α} :
    (∃ result, step = .ok result) ↔ ∀ failure, step ≠ .error failure := by
  cases step with
  | error failure =>
    constructor
    · rintro ⟨_, ⟨⟩⟩
    · exact fun h => absurd rfl (h failure)
  | ok value =>
    constructor
    · rintro - failure ⟨⟩
    · exact fun _ => ⟨value, rfl⟩

/-- Two steps fail if the first does, or the second does with the result of the first. -/
theorem bind_eq_error_iff {first : Except ε α} {second : α → Except ε β} {failure : ε} :
    first >>= second = .error failure ↔
      first = .error failure ∨ ∃ value, first = .ok value ∧ second value = .error failure := by
  cases first with
  | error cause => simp [bind, Except.bind]
  | ok value => simp [bind, Except.bind]

/-- Renaming failures neither adds nor removes one. -/
theorem mapError_eq_error_iff {ε' : Type} {step : Except ε α} {f : ε → ε'} {failure : ε'} :
    step.mapError f = .error failure ↔ ∃ cause, step = .error cause ∧ f cause = failure := by
  cases step with
  | error cause =>
    constructor
    · rintro ⟨⟩
      exact ⟨cause, rfl, rfl⟩
    · rintro ⟨_, ⟨⟩, rfl⟩
      rfl
  | ok value =>
    constructor
    · rintro ⟨⟩
    · rintro ⟨_, ⟨⟩, _⟩

/-- A step for each member of a list fails as the first one does that fails. -/
theorem mapM_eq_error_iff {f : α → Except ε β} {failure? : α → Option ε} {list : List α}
    (hstep : ∀ member ∈ list, ∀ failure,
      f member = .error failure ↔ failure? member = some failure) {failure : ε} :
    list.mapM f = .error failure ↔ list.findSome? failure? = some failure := by
  induction list with
  | nil => exact ⟨nofun, nofun⟩
  | cons head rest ih =>
    obtain ⟨hhead, hrest⟩ := List.forall_mem_cons.mp hstep
    rw [List.mapM_cons, bind_eq_error_iff, List.findSome?_cons]
    cases hresult : f head with
    | error cause =>
      rw [(hhead cause).mp hresult]
      simp
    | ok value =>
      have hnone : failure? head = none := by
        rw [Option.eq_none_iff_forall_ne_some]
        intro cause hcause
        rw [(hhead cause).mpr hcause] at hresult
        cases hresult
      rw [hnone]
      simp [bind_eq_error_iff, pure, Except.pure, ih hrest]

end AvrSetup
