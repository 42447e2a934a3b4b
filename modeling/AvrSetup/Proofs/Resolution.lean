import AvrSetup.Resolution

/-!
# Lookups in the record that is in force

The record in force is made in two passes, one that fills in defaults and one that leaves
out what does not matter. A lookup in it can be told from the given record and the fields
of the scope (`Settings.get?_effective`).
-/

namespace AvrSetup

/-- A condition holds of both records or of neither if they agree on what it reads. -/
theorem Condition.holdsIfGiven_congr {condition : Option Condition} {settings other : Settings}
    (h : ∀ given ∈ condition, ∀ key ∈ given.keys, settings.get? key = other.get? key) :
    holdsIfGiven condition settings = holdsIfGiven condition other := by
  cases condition with
  | none => rfl
  | some given =>
    have hclauses : given.holds settings = given.holds other := by
      rw [Bool.eq_iff_iff, holds, holds, List.all_eq_true, List.all_eq_true]
      refine forall₂_congr fun clause hclause => ?_
      rw [Clause.holds, Clause.holds, h given rfl clause.key (List.mem_map_of_mem hclause)]
    exact hclauses

namespace Settings

/-- The fields that belong to a scope. -/
def fieldsIn (fields : List Field) (scope : Scope) : List Field :=
  fields.filter fun field => field.isIn scope

/-- The given record with the defaults of a scope. -/
def filled (fields : List Field) (scope : Scope) (given : Settings) : Settings :=
  given.withDefaults (fieldsIn fields scope)

/-- A key has its given value, or else the default of the first field with this key. -/
theorem get?_withDefaults (given : Settings) (fields : List Field) (key : String) :
    (given.withDefaults fields).get? key =
      (given.get? key).or ((fields.find? fun field => field.key == key).map Field.default) := by
  induction fields generalizing given with
  | nil => simp [withDefaults]
  | cons head rest ih =>
    have hstep : given.withDefaults (head :: rest) =
        (if given.contains head.key then given
          else given.insert head.key head.default).withDefaults rest := rfl
    rw [hstep, ih]
    by_cases hkey : head.key = key
    · subst hkey
      cases hget : given.get? head.key with
      | none => simp [SortedMap.contains, hget, SortedMap.get?_insert]
      | some value => simp [SortedMap.contains, hget]
    · by_cases hcontains : given.contains head.key = true
      · simp [hcontains, hkey]
      · simp [hcontains, hkey, SortedMap.get?_insert, Ne.symm hkey]

/-- A key has its filled in value, unless a field of the scope with this key does not matter. -/
theorem get?_effective (fields : List Field) (scope : Scope) (given : Settings) (key : String) :
    (effective fields scope given).get? key =
      if ∃ field ∈ fieldsIn fields scope, field.key = key ∧
        field.isVisible (filled fields scope given) = false then none
      else (filled fields scope given).get? key := by
  have hhidden : key ∈ (filled fields scope given).hiddenKeys (fieldsIn fields scope) ↔
      ∃ field ∈ fieldsIn fields scope, field.key = key ∧
        field.isVisible (filled fields scope given) = false := by
    simp only [hiddenKeys, List.mem_map, List.mem_filter, Bool.not_eq_true']
    constructor
    · rintro ⟨field, ⟨hfield, hvisible⟩, hkey⟩
      exact ⟨field, hfield, hkey, hvisible⟩
    · rintro ⟨field, hfield, hkey, hvisible⟩
      exact ⟨field, ⟨hfield, hvisible⟩, hkey⟩
  have hfilter : (effective fields scope given).get? key =
      if !((filled fields scope given).hiddenKeys (fieldsIn fields scope)).contains key then
        (filled fields scope given).get? key
      else none :=
    SortedMap.get?_filterKeys _ _ key
  rw [hfilter]
  by_cases h : key ∈ (filled fields scope given).hiddenKeys (fieldsIn fields scope)
  · rw [if_pos (hhidden.mp h), List.contains_iff_mem.mpr h]
    rfl
  · have hnot : ((filled fields scope given).hiddenKeys (fieldsIn fields scope)).contains key =
        false := by simpa using h
    rw [if_neg fun hexists => h (hhidden.mpr hexists), hnot]
    rfl

/-- All settings of a record have the same values in another one. -/
def IsWithin (settings more : Settings) : Prop :=
  ∀ key value, settings.get? key = some value → more.get? key = some value

/-- A setting that is one of some values is so in every record with more settings. -/
theorem IsWithin.holds_anyOf {settings more : Settings} (hwithin : settings.IsWithin more)
    {key : String} {values : List String}
    (h : (Clause.anyOf key values).holds settings = true) :
    (Clause.anyOf key values).holds more = true := by
  obtain ⟨value, hget, hvalue⟩ := (Option.any_eq_true _ _).mp h
  exact (Option.any_eq_true _ _).mpr ⟨value, hwithin key value hget, hvalue⟩

/-- The values in force are the filled in values. -/
theorem isWithin_filled (fields : List Field) (scope : Scope) (given : Settings) :
    (effective fields scope given).IsWithin (filled fields scope given) := by
  intro key value h
  rw [get?_effective] at h
  split at h
  · cases h
  · exact h

/-- A value in force was given, or is the default of a field of the scope. -/
theorem given_or_default_of_effective {fields : List Field} {scope : Scope} {given : Settings}
    {key : String} {value : Value}
    (h : (effective fields scope given).get? key = some value) :
    given.get? key = some value ∨
      ∃ field ∈ fieldsIn fields scope, field.key = key ∧ field.default = value := by
  have hfilled := isWithin_filled fields scope given key value h
  rw [filled, get?_withDefaults, Option.or_eq_some_iff] at hfilled
  rcases hfilled with hgiven | ⟨-, hdefault⟩
  · exact Or.inl hgiven
  · obtain ⟨field, hfield, heq⟩ := Option.map_eq_some_iff.mp hdefault
    have hkey : field.key = key := by simpa using List.find?_some hfield
    exact Or.inr ⟨field, List.mem_of_find?_eq_some hfield, hkey, heq⟩

/-- A setting is in force if a field of the scope has its key, and all of these matter. -/
theorem contains_effective {fields : List Field} {scope : Scope} {given : Settings}
    {key : String} (hfield : ∃ field ∈ fieldsIn fields scope, field.key = key)
    (hvisible : ∀ field ∈ fieldsIn fields scope, field.key = key →
      field.isVisible (filled fields scope given) = true) :
    (effective fields scope given).contains key = true := by
  have hnone : ¬∃ field ∈ fieldsIn fields scope, field.key = key ∧
      field.isVisible (filled fields scope given) = false := by
    rintro ⟨field, hmem, hkey, hhidden⟩
    rw [hvisible field hmem hkey] at hhidden
    cases hhidden
  obtain ⟨field, hmem, hkey⟩ := hfield
  have hfound : ((fieldsIn fields scope).find? fun field => field.key == key).isSome = true :=
    List.find?_isSome.mpr ⟨field, hmem, beq_iff_eq.mpr hkey⟩
  rw [SortedMap.contains, get?_effective, if_neg hnone, filled, get?_withDefaults,
    Option.isSome_or, Option.isSome_map, hfound, Bool.or_true]

end Settings

end AvrSetup
