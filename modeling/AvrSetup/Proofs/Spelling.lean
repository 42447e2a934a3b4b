import AvrSetup.Proofs.Totality
import Mathlib.Data.List.Forall2

/-!
# Numbers that are written as texts

Code looks at a value in three ways: whether it counts as set, under which text it is looked up,
and which text stands for it in C. Values that agree in all three (`Value.LooksLike`) may be put
in each other's place anywhere in a configuration: every step from the given settings to the code
takes records that agree to records that agree, or to the same result. A number other than zero
agrees with its decimal text, so it may be written either way (`Device.generate_respelled`). Zero
may not, as it does not count as set, and the text does.
-/

namespace AvrSetup

/-! ## Lists with related members -/

section

variable {α β γ : Type} {r : α → β → Prop} {list : List α} {other : List β}

/-- Functions that agree on related members give the same list. -/
theorem map_eq_of_forall₂ {f : α → γ} {g : β → γ} (h : List.Forall₂ r list other)
    (hfg : ∀ member member', r member member' → f member = g member') :
    list.map f = other.map g := by
  have hmaps : List.Forall₂ (· = ·) (list.map f) (other.map g) :=
    List.forall₂_map_left_iff.mpr (List.forall₂_map_right_iff.mpr (h.imp hfg))
  rwa [List.forall₂_eq_eq_eq] at hmaps

theorem flatMap_eq_of_forall₂ {f : α → List γ} {g : β → List γ} (h : List.Forall₂ r list other)
    (hfg : ∀ member member', r member member' → f member = g member') :
    list.flatMap f = other.flatMap g := by
  rw [List.flatMap_def, List.flatMap_def, map_eq_of_forall₂ h hfg]

/-- Steps that agree on related members succeed or fail alike. -/
theorem mapM_eq_of_forall₂ {ε : Type} {f : α → Except ε γ} {g : β → Except ε γ}
    (h : List.Forall₂ r list other)
    (hfg : ∀ member member', r member member' → f member = g member') :
    list.mapM f = other.mapM g := by
  induction h with
  | nil => rfl
  | cons hhead _ ih => rw [List.mapM_cons, List.mapM_cons, hfg _ _ hhead, ih]

end

/-! ## Maps with related values -/

/-- Two maps have the same keys, with related values. -/
def SortedMap.Rel {α β : Type} [Ord α] (r : β → β → Prop) (map other : SortedMap α β) : Prop :=
  ∀ key, Option.Rel r (map.get? key) (other.get? key)

namespace SortedMap.Rel

variable {α β γ : Type} [Ord α] {r s : β → β → Prop} {map other : SortedMap α β}

/-- A key is in neither map, or in both with related values. -/
theorem get?_cases (h : map.Rel r other) (key : α) :
    map.get? key = none ∧ other.get? key = none ∨
      ∃ value value', map.get? key = some value ∧ other.get? key = some value' ∧
        r value value' := by
  have hkey := h key
  generalize map.get? key = found at hkey ⊢
  generalize other.get? key = found' at hkey ⊢
  cases hkey with
  | none => exact .inl ⟨rfl, rfl⟩
  | some hvalue => exact .inr ⟨_, _, rfl, rfl, hvalue⟩

theorem mono (h : map.Rel r other) (hrs : ∀ value value', r value value' → s value value') :
    map.Rel s other := by
  intro key
  obtain ⟨hnone, hnone'⟩ | ⟨value, value', hfound, hfound', hvalue⟩ := h.get?_cases key
  · rw [hnone, hnone']
    exact .none
  · rw [hfound, hfound']
    exact .some (hrs _ _ hvalue)

/-- The keys are the same. -/
theorem contains_eq (h : map.Rel r other) (key : α) : map.contains key = other.contains key := by
  unfold contains
  obtain ⟨hnone, hnone'⟩ | ⟨value, value', hfound, hfound', -⟩ := h.get?_cases key
  · rw [hnone, hnone']
  · rw [hfound, hfound', Option.isSome_some, Option.isSome_some]

/-- The maps stay related when others that are related are put over them. -/
theorem overlay [DecidableEq α] [Std.TransOrd α] [Std.LawfulEqOrd α] {upper above : SortedMap α β}
    (h : map.Rel r other) (hupper : upper.Rel r above) :
    (map.overlay upper).Rel r (other.overlay above) := by
  intro key
  rw [get?_overlay, get?_overlay]
  obtain ⟨hnone, hnone'⟩ | ⟨value, value', hfound, hfound', hvalue⟩ := hupper.get?_cases key
  · rw [hnone, hnone']
    exact h key
  · rw [hfound, hfound']
    exact .some hvalue

/-- A function that does not tell the values apart makes the maps the same. -/
theorem mapValues_eq [Std.TransOrd α] [Std.LawfulEqOrd α] (h : map.Rel r other)
    {f g : α → β → γ} (hfg : ∀ key value value', r value value' → f key value = g key value') :
    map.mapValues f = other.mapValues g := by
  apply ext_get?
  intro key
  rw [get?_mapValues, get?_mapValues]
  obtain ⟨hnone, hnone'⟩ | ⟨value, value', hfound, hfound', hvalue⟩ := h.get?_cases key
  · rw [hnone, hnone', Option.map_none, Option.map_none]
  · rw [hfound, hfound', Option.map_some, Option.map_some, hfg key value value' hvalue]

/-- The entries are related one by one. -/
theorem forall₂_entries [Std.TransOrd α] [Std.LawfulEqOrd α] (h : map.Rel r other) :
    List.Forall₂ (fun entry entry' => entry.1 = entry'.1 ∧ r entry.2 entry'.2)
      map.entries other.entries := by
  have hkeys : map.entries.map Prod.fst = other.entries.map Prod.fst := by
    have hunits : map.mapValues (fun _ _ => ()) = other.mapValues fun _ _ => () :=
      h.mapValues_eq fun _ _ _ _ => rfl
    have hentries := congrArg (List.map Prod.fst ∘ entries) hunits
    simpa [mapValues, Function.comp_def] using hentries
  have hsame : List.Forall₂ (fun entry entry' => entry.1 = entry'.1) map.entries other.entries := by
    have heq : List.Forall₂ (· = ·) (map.entries.map Prod.fst) (other.entries.map Prod.fst) := by
      rw [List.forall₂_eq_eq_eq]
      exact hkeys
    exact List.forall₂_map_right_iff.mp (List.forall₂_map_left_iff.mp heq)
  obtain ⟨hlength, hzip⟩ := List.forall₂_iff_zip.mp hsame
  refine List.forall₂_iff_zip.mpr ⟨hlength, ?_⟩
  rintro ⟨key, value⟩ ⟨key', value'⟩ hmem
  obtain rfl : key = key' := hzip hmem
  obtain ⟨hleft, hright⟩ := List.of_mem_zip hmem
  have hrel := h key
  rw [get?_of_mem_entries hleft, get?_of_mem_entries hright] at hrel
  cases hrel with
  | some hvalue => exact ⟨rfl, hvalue⟩

/-- Lists of related entries give related maps. -/
theorem ofList [DecidableEq α] [Std.TransOrd α] [Std.LawfulEqOrd α] {entries others : List (α × β)}
    (h : List.Forall₂ (fun entry entry' => entry.1 = entry'.1 ∧ r entry.2 entry'.2)
      entries others) :
    (SortedMap.ofList entries).Rel r (SortedMap.ofList others) := by
  refine List.rel_foldl ?_ (P := SortedMap.Rel r) (fun _ => .none) h
  rintro map other hmap ⟨key, value⟩ ⟨_, value'⟩ ⟨rfl, hvalue⟩ place
  rw [get?_insert, get?_insert]
  split
  · exact .some hvalue
  · exact hmap place

theorem isEmpty_eq [Std.TransOrd α] [Std.LawfulEqOrd α] (h : map.Rel r other) :
    map.isEmpty = other.isEmpty := by
  unfold isEmpty
  rw [Bool.eq_iff_iff, List.isEmpty_iff_length_eq_zero, List.isEmpty_iff_length_eq_zero,
    h.forall₂_entries.length_eq]

end SortedMap.Rel

/-- Two states are the same but for the values of their settings, which are related. -/
inductive State.Rel (r : Value → Value → Prop) : State → State → Prop where
  /-- The pins are the same. -/
  | pinBound {pins pins' : SortedMap Pin Settings} {settings settings' : Settings}
    (hpins : pins.Rel (SortedMap.Rel r) pins') (hsettings : settings.Rel r settings')
    (interrupts : InterruptSwitches) :
    Rel r (.pinBound pins settings interrupts) (.pinBound pins' settings' interrupts)
  /-- The interrupt is the same. -/
  | interruptOnly {settings settings' : Settings} (interrupt : String)
    (hsettings : settings.Rel r settings') :
    Rel r (.interruptOnly interrupt settings) (.interruptOnly interrupt settings')
  /-- Both are on or off. -/
  | global {settings settings' : Settings} (enabled : Bool) (hsettings : settings.Rel r settings')
    (interrupts : InterruptSwitches) :
    Rel r (.global enabled settings interrupts) (.global enabled settings' interrupts)

/-- Two configurations are the same but for the values of settings, which are related. -/
def Configuration.Rel (r : Value → Value → Prop) (configuration other : Configuration) : Prop :=
  SortedMap.Rel (State.Rel r) configuration other

theorem State.Rel.mono {r s : Value → Value → Prop} {state other : State}
    (h : State.Rel r state other) (hrs : ∀ value value', r value value' → s value value') :
    State.Rel s state other := by
  cases h with
  | pinBound hpins hsettings interrupts =>
    exact .pinBound (hpins.mono fun _ _ hgiven => hgiven.mono hrs) (hsettings.mono hrs) interrupts
  | interruptOnly interrupt hsettings => exact .interruptOnly interrupt (hsettings.mono hrs)
  | global enabled hsettings interrupts => exact .global enabled (hsettings.mono hrs) interrupts

namespace State.Rel

variable {r : Value → Value → Prop} {state other : State}

/-- The settings of the peripheral as a whole are related. -/
theorem settings (h : State.Rel r state other) : SortedMap.Rel r state.settings other.settings := by
  cases h with
  | pinBound _ hsettings => exact hsettings
  | interruptOnly _ hsettings => exact hsettings
  | global _ hsettings => exact hsettings

/-- The same pins are taken, with related settings. -/
theorem pinSettings (h : State.Rel r state other) :
    state.pinSettings.Rel (SortedMap.Rel r) other.pinSettings := by
  cases h with
  | pinBound hpins => exact hpins
  | interruptOnly => exact fun _ => .none
  | global => exact fun _ => .none

/-- Both states ask for code, or neither does. -/
theorem isActive_eq (h : State.Rel r state other) : state.isActive = other.isActive := by
  cases h with
  | pinBound hpins => simp only [isActive, hpins.isEmpty_eq]
  | interruptOnly => rfl
  | global => rfl

end State.Rel

/-! ## Values that look alike -/

/-- Code cannot tell two values apart. -/
structure Value.LooksLike (value other : Value) : Prop where
  /-- Both count as set, or neither does. -/
  isTruthy : value.isTruthy = other.isTruthy
  /-- They are looked up under the same text. -/
  keyText : value.keyText = other.keyText
  /-- The same text stands for them in C. -/
  cText : value.cText = other.cText

theorem Value.LooksLike.refl (value : Value) : value.LooksLike value := ⟨rfl, rfl, rfl⟩

/-- Two values are the same, or they are a number other than zero and its decimal text. -/
inductive Value.Respelled : Value → Value → Prop where
  /-- The values are the same. -/
  | same (value : Value) : Respelled value value
  /-- The number is written as a text. -/
  | asText {number : Int} (h : number ≠ 0) : Respelled (.int number) (.text (toString number))
  /-- The text is written as a number. -/
  | asNumber {number : Int} (h : number ≠ 0) : Respelled (.text (toString number)) (.int number)

/-- The decimal text of a number is not empty. -/
theorem toString_int_ne_empty (number : Int) : toString number ≠ "" := by
  cases number with
  | ofNat size => exact Nat.repr_ne_empty
  | negSucc size =>
    intro h
    have hlength := congrArg String.length h
    simp [toString, Int.repr] at hlength

/-- A number other than zero looks like its decimal text. -/
theorem Value.looksLike_toString {number : Int} (h : number ≠ 0) :
    (Value.int number).LooksLike (.text (toString number)) where
  isTruthy := by
    change (number != 0) = (toString number != "")
    rw [bne_iff_ne.mpr h, bne_iff_ne.mpr (toString_int_ne_empty number)]
  keyText := rfl
  cText := rfl

theorem Value.Respelled.looksLike {value other : Value} (h : value.Respelled other) :
    value.LooksLike other := by
  cases h with
  | same => exact .refl value
  | asText hnumber => exact looksLike_toString hnumber
  | asNumber hnumber =>
    obtain ⟨hset, hkey, hc⟩ := looksLike_toString hnumber
    exact ⟨hset.symm, hkey.symm, hc.symm⟩

/-! ## Records -/

namespace Settings

variable {settings other : Settings}

/-- Code cannot tell two records apart. -/
def LooksLike (settings other : Settings) : Prop := settings.Rel Value.LooksLike other

/-- A setting counts as set in both records or in neither. -/
theorem LooksLike.isTruthy_eq (h : settings.LooksLike other) (key : String) :
    settings.isTruthy key = other.isTruthy key := by
  unfold isTruthy
  obtain ⟨hnone, hnone'⟩ | ⟨value, value', hfound, hfound', hvalue⟩ := h.get?_cases key
  · rw [hnone, hnone']
  · rw [hfound, hfound', Option.any_some, Option.any_some, hvalue.isTruthy]

/-- Plain input has the pull-up in both records or in neither. -/
theorem LooksLike.isPulledUp_eq (h : settings.LooksLike other) :
    PinChange.isPulledUp settings = PinChange.isPulledUp other := by
  unfold PinChange.isPulledUp
  obtain ⟨hnone, hnone'⟩ | ⟨value, value', hfound, hfound', hvalue⟩ := h.get?_cases "mode"
  · rw [hnone, hnone']
  · rw [hfound, hfound', Option.any_some, Option.any_some, hvalue.keyText]

/-- A condition holds of both records or of neither. -/
theorem LooksLike.holdsIfGiven_eq (h : settings.LooksLike other) (condition : Option Condition) :
    Condition.holdsIfGiven condition settings = Condition.holdsIfGiven condition other := by
  have hclause (clause : Clause) : clause.holds settings = clause.holds other := by
    unfold Clause.holds Clause.holdsOf
    obtain ⟨hnone, hnone'⟩ | ⟨value, value', hfound, hfound', hvalue⟩ := h.get?_cases clause.key
    · rw [hnone, hnone']
    · simp only [hfound, hfound', Option.any_some, hvalue.keyText, hvalue.isTruthy]
  unfold Condition.holdsIfGiven Condition.holds
  simp only [hclause]

/-- The records still look alike when defaults are filled in. -/
theorem LooksLike.filled (h : settings.LooksLike other) (fields : List Field) (scope : Scope) :
    (Settings.filled fields scope settings).LooksLike (Settings.filled fields scope other) := by
  intro key
  unfold Settings.filled
  rw [get?_withDefaults, get?_withDefaults]
  obtain ⟨hnone, hnone'⟩ | ⟨value, value', hfound, hfound', hvalue⟩ := h.get?_cases key
  · rw [hnone, hnone']
    generalize (fieldsIn fields scope).find? (fun field => field.key == key) = declared
    cases declared with
    | none => exact .none
    | some field => exact .some (.refl field.default)
  · rw [hfound, hfound']
    exact .some hvalue

/-- The records in force look alike: the same settings are left out. -/
theorem LooksLike.effective (h : settings.LooksLike other) (fields : List Field) (scope : Scope) :
    (Settings.effective fields scope settings).LooksLike
      (Settings.effective fields scope other) := by
  have hfilled := h.filled fields scope
  have hvisible (field : Field) : field.isVisible (Settings.filled fields scope settings) =
      field.isVisible (Settings.filled fields scope other) :=
    hfilled.holdsIfGiven_eq field.visible
  intro key
  rw [get?_effective, get?_effective]
  simp only [hvisible]
  split
  · exact .none
  · exact hfilled key

/-- The records select the same mode key. -/
theorem LooksLike.modeKey?_eq (h : settings.LooksLike other) (mode : Option ModeTable) :
    settings.modeKey? mode = other.modeKey? mode := by
  cases mode with
  | none => rfl
  | some mode =>
    simp only [modeKey?, bind, Option.bind_some]
    obtain ⟨hnone, hnone'⟩ | ⟨value, value', hfound, hfound', hvalue⟩ := h.get?_cases mode.field
    · rw [hnone, hnone']
    · simp only [hfound, hfound', Option.bind_some, hvalue.isTruthy, hvalue.keyText]

/-- The values of tables look alike. -/
theorem LooksLike.tabulated (h : settings.LooksLike other) (tables : SortedMap String ValueTable) :
    (settings.tabulated tables).LooksLike (other.tabulated tables) := by
  intro key
  unfold Settings.tabulated
  rw [SortedMap.get?_mapValues, SortedMap.get?_mapValues]
  obtain ⟨hnone, hnone'⟩ | ⟨value, value', hfound, hfound', hvalue⟩ := h.get?_cases key
  · rw [hnone, hnone']
    exact .none
  · rw [hfound, hfound', Option.map_some, Option.map_some, hvalue.keyText]
    refine .some ?_
    split
    · exact .refl _
    · exact hvalue

end Settings

namespace Descriptor

variable (descriptor : Descriptor) {settings other given given' : Settings}

theorem pinSettings_looksLike (h : settings.LooksLike other) (hgiven : given.LooksLike given') :
    (descriptor.pinSettings settings given).LooksLike (descriptor.pinSettings other given') :=
  Settings.LooksLike.effective (SortedMap.Rel.overlay h hgiven) descriptor.fields .pin

/-- Templates are filled in with the same texts. -/
theorem parametersOf_congr (h : settings.LooksLike other) :
    descriptor.parametersOf settings = descriptor.parametersOf other :=
  (h.tabulated descriptor.tables).mapValues_eq fun _ _ _ hvalue => hvalue.cText

/-- The same templates are selected. -/
theorem selected_congr (h : settings.LooksLike other) (scope : Scope) (keys : List String) :
    descriptor.selected scope keys settings = descriptor.selected scope keys other := by
  have happlies (set : TemplateSet) : set.appliesTo settings = set.appliesTo other :=
    h.holdsIfGiven_eq set.condition
  simp only [selected, happlies]

theorem peripheralSets_congr (h : settings.LooksLike other) :
    descriptor.peripheralSets settings = descriptor.peripheralSets other := by
  rw [peripheralSets, h.modeKey?_eq, descriptor.selected_congr h, peripheralSets]

theorem interruptSets_congr (h : settings.LooksLike other) (interrupt : String) :
    descriptor.interruptSets interrupt settings = descriptor.interruptSets interrupt other := by
  rw [interruptSets, descriptor.selected_congr h, descriptor.peripheralSets_congr h, interruptSets]

/-- A pin has the same jobs. -/
theorem pinJobs_congr (h : settings.LooksLike other) (hgiven : given.LooksLike given')
    (signal : String) (pin : Pin) :
    descriptor.pinJobs settings signal pin given = descriptor.pinJobs other signal pin given' := by
  have hpin := descriptor.pinSettings_looksLike h hgiven
  simp only [pinJobs, pinSets, hpin.modeKey?_eq, descriptor.selected_congr hpin,
    descriptor.parametersOf_congr hpin]

/-- The init routine is called with the same texts, or misses the same one. -/
theorem callArguments_congr (h : settings.LooksLike other) :
    descriptor.callArguments settings = descriptor.callArguments other := by
  unfold callArguments
  congr 1
  funext parameter
  obtain ⟨hnone, hnone'⟩ | ⟨value, value', hfound, hfound', hvalue⟩ := h.get?_cases parameter.field
  · rw [hnone, hnone']
  · simp only [hfound, hfound', hvalue.cText]

/-! ## States -/

section

variable {state state' : State}

/-- The peripheral as a whole has settings that look alike. -/
theorem peripheralSettings_looksLike (h : State.Rel Value.LooksLike state state') :
    (descriptor.peripheralSettings state).LooksLike (descriptor.peripheralSettings state') :=
  Settings.LooksLike.effective h.settings descriptor.fields .peripheral

/-- The same pin carries a signal. -/
theorem carrier?_congr {r : Value → Value → Prop} (h : State.Rel r state state')
    (interrupt signal : String) :
    descriptor.carrier? state interrupt signal = descriptor.carrier? state' interrupt signal := by
  have hoccupies : state.occupies = state'.occupies := funext h.pinSettings.contains_eq
  cases h with
  | pinBound => simp only [carrier?, hoccupies]
  | interruptOnly => rfl
  | global => simp only [carrier?, hoccupies]

/-- The same templates are selected for the peripheral as a whole. -/
theorem sharedSets_congr {r : Value → Value → Prop} (h : State.Rel r state state')
    (hsettings : settings.LooksLike other) :
    descriptor.sharedSets state settings = descriptor.sharedSets state' other := by
  cases h with
  | pinBound => exact descriptor.peripheralSets_congr hsettings
  | interruptOnly interrupt => exact descriptor.interruptSets_congr hsettings interrupt
  | global => exact descriptor.peripheralSets_congr hsettings

/-- The same pins are set up for the same signals, with settings that are related. -/
theorem pinsInUse_rel {r : Value → Value → Prop} (h : State.Rel r state state') :
    List.Forall₂ (fun use use' => use.1 = use'.1 ∧ use.2.1 = use'.2.1 ∧ use.2.2.Rel r use'.2.2)
      (descriptor.pinsInUse state) (descriptor.pinsInUse state') := by
  cases h with
  | pinBound hpins =>
    refine List.rel_filterMap (R := (· = ·)) ?_ (List.forall₂_refl descriptor.wiring)
    rintro ⟨signal, pin⟩ _ rfl
    obtain ⟨hnone, hnone'⟩ | ⟨given, given', hfound, hfound', hgiven⟩ := hpins.get?_cases pin
    · simp only [hnone, hnone', Option.map_none]
      exact .none
    · simp only [hfound, hfound', Option.map_some]
      exact .some ⟨rfl, rfl, hgiven⟩
  | interruptOnly interrupt =>
    -- Only an interrupt is wanted, so its pin has no settings of its own.
    refine List.forall₂_same.mpr fun use huse => ⟨rfl, rfl, fun key => ?_⟩
    simp only [pinsInUse, bind, Option.mem_toList, Option.bind_eq_some_iff, pure,
      Option.some.injEq] at huse
    obtain ⟨_, -, _, -, _, -, rfl⟩ := huse
    exact .none
  | global => exact .nil

/-- An interrupt is wanted in both states or in neither. -/
theorem isEnabled_congr {r : Value → Value → Prop} (h : State.Rel r state state')
    (interrupt : Interrupt) : isEnabled state interrupt = isEnabled state' interrupt := by
  cases h <;> rfl

/-- An interrupt has the same job. -/
theorem interruptJob?_congr {r : Value → Value → Prop} (h : State.Rel r state state')
    (hsettings : settings.LooksLike other) (interrupt : Interrupt) :
    descriptor.interruptJob? state settings interrupt =
      descriptor.interruptJob? state' other interrupt := by
  simp only [interruptJob?, isEnabled_congr h, hsettings.holdsIfGiven_eq,
    descriptor.parametersOf_congr hsettings, descriptor.carrier?_congr h]

/-- The states ask for the same code. -/
theorem jobs_eq_of_looksLike (h : State.Rel Value.LooksLike state state') :
    descriptor.jobs state = descriptor.jobs state' := by
  have hsettings := descriptor.peripheralSettings_looksLike h
  have hpins : ((descriptor.pinsInUse state).flatMap fun use =>
      descriptor.pinJobs (descriptor.peripheralSettings state) use.1 use.2.1 use.2.2) =
      (descriptor.pinsInUse state').flatMap fun use =>
        descriptor.pinJobs (descriptor.peripheralSettings state') use.1 use.2.1 use.2.2 := by
    refine flatMap_eq_of_forall₂ (descriptor.pinsInUse_rel h) ?_
    rintro ⟨signal, pin, given⟩ ⟨_, _, given'⟩ ⟨rfl, rfl, hgiven⟩
    exact descriptor.pinJobs_congr hsettings hgiven signal pin
  have hinterrupts : descriptor.interruptJob? state (descriptor.peripheralSettings state) =
      descriptor.interruptJob? state' (descriptor.peripheralSettings state') :=
    funext (descriptor.interruptJob?_congr h hsettings)
  simp only [jobs, descriptor.sharedSets_congr h hsettings, descriptor.parametersOf_congr hsettings,
    hinterrupts]
  congr 2

/-- The code is the same, or it fails alike. -/
theorem expand_eq_of_looksLike (h : State.Rel Value.LooksLike state state') (clock : Option Nat) :
    descriptor.expand state clock = descriptor.expand state' clock := by
  simp only [expand, h.isActive_eq, descriptor.jobs_eq_of_looksLike h,
    descriptor.callArguments_congr (descriptor.peripheralSettings_looksLike h)]

end

end Descriptor

/-! ## Pin-change interrupts -/

namespace PinChange

variable (device : Device) {configuration other : Configuration}

/-- The same pins are assigned to a peripheral, with settings that look alike. -/
theorem configuredPins_rel (h : configuration.Rel Value.LooksLike other) (id : Peripheral) :
    List.Forall₂ (fun entry entry' => entry.1 = entry'.1 ∧ entry.2.LooksLike entry'.2)
      (configuredPins device configuration id) (configuredPins device other id) := by
  unfold configuredPins
  cases device.descriptor? id with
  | none => exact .nil
  | some descriptor =>
    obtain ⟨hnone, hnone'⟩ | ⟨state, state', hfound, hfound', hstate⟩ := h.get?_cases id
    · rw [hnone, hnone']
      exact .nil
    · rw [hfound, hfound']
      refine List.rel_map ?_ (List.rel_filter ?_ hstate.pinSettings.forall₂_entries)
      · rintro ⟨pin, given⟩ ⟨_, given'⟩ ⟨rfl, hgiven⟩
        exact ⟨rfl, descriptor.pinSettings_looksLike hstate.settings hgiven⟩
      · rintro ⟨pin, given⟩ ⟨_, given'⟩ ⟨rfl, -⟩
        exact Iff.rfl

/-- The same pins are asked for, with the same pull-ups. -/
theorem requests_congr (h : configuration.Rel Value.LooksLike other) :
    requests device configuration = requests device other := by
  have hexplicit : explicitRequests device configuration = explicitRequests device other := by
    refine map_eq_of_forall₂ (configuredPins_rel device h .pcint) ?_
    rintro ⟨pin, settings⟩ ⟨_, settings'⟩ ⟨rfl, hsettings⟩
    simp only [hsettings.isTruthy_eq]
  have hflagged : flaggedRequests device configuration = flaggedRequests device other := by
    refine map_eq_of_forall₂ (List.rel_filter ?_ (configuredPins_rel device h .gpio)) ?_
    · rintro ⟨pin, settings⟩ ⟨_, settings'⟩ ⟨rfl, hsettings⟩
      simp only [hsettings.isTruthy_eq]
    · rintro ⟨pin, settings⟩ ⟨_, settings'⟩ ⟨rfl, hsettings⟩
      simp only [hsettings.isPulledUp_eq]
  rw [requests, requests, hexplicit, hflagged]

end PinChange

/-! ## Configurations -/

/-- Two contributions are the same but for the values of settings, which are related. -/
inductive Stage.Rel (r : Value → Value → Prop) : Stage → Stage → Prop where
  /-- The peripheral is the same. -/
  | peripheral (descriptor : Descriptor) {state state' : State} (h : State.Rel r state state') :
    Rel r (.peripheral descriptor state) (.peripheral descriptor state')
  /-- Both are the pin-change interrupts. -/
  | pinChange : Rel r .pinChange .pinChange

namespace Device

variable (device : Device) {configuration other : Configuration}

/-- The same peripherals contribute, in the same order. -/
theorem stages_rel {r : Value → Value → Prop} (h : configuration.Rel r other) :
    List.Forall₂ (Stage.Rel r) (device.stages configuration) (device.stages other) := by
  refine List.rel_append ?_ ?_
  · refine List.rel_filterMap (R := (· = ·)) ?_ (List.forall₂_refl device.peripherals)
    rintro descriptor _ rfl
    simp only [Descriptor.stage?]
    split
    · exact .some .pinChange
    · obtain ⟨hnone, hnone'⟩ | ⟨state, state', hfound, hfound', hstate⟩ :=
        h.get?_cases descriptor.id
      · rw [hnone, hnone']
        exact .none
      · rw [hfound, hfound']
        simp only [Option.filter_some, hstate.isActive_eq]
        split
        · exact .some (.peripheral descriptor hstate)
        · exact .none
  · split
    · exact .nil
    · exact .cons .pinChange .nil

/-- Configurations that look alike lead to the same code, or fail alike. -/
theorem generate_eq_of_looksLike (h : configuration.Rel Value.LooksLike other)
    (clock : Option Nat) : device.generate configuration clock = device.generate other clock := by
  have hpinChange : PinChange.expansion? device configuration =
      PinChange.expansion? device other := by
    rw [PinChange.expansion?, PinChange.expansion?, PinChange.requests_congr device h]
  have hstages (clock : Option Nat) :
      (device.stages configuration).mapM (device.expandStage configuration clock) =
        (device.stages other).mapM (device.expandStage other clock) := by
    refine mapM_eq_of_forall₂ (device.stages_rel h) fun stage stage' hstage => ?_
    cases hstage with
    | peripheral descriptor hstate =>
      simp only [expandStage, descriptor.expand_eq_of_looksLike hstate]
    | pinChange => simp only [expandStage, hpinChange]
  simp only [generate, expansions, hstages]

/-- Any number other than zero may be written as its decimal text. -/
theorem generate_respelled (h : configuration.Rel Value.Respelled other) (clock : Option Nat) :
    device.generate configuration clock = device.generate other clock := by
  have halike : configuration.Rel Value.LooksLike other :=
    SortedMap.Rel.mono h fun _ _ hstate => hstate.mono fun _ _ hvalue => hvalue.looksLike
  exact device.generate_eq_of_looksLike halike clock

end Device

namespace Atmega328p

/-- A timer that drives a pin, with values for its prescaler and for the duty cycle. -/
def dutyConfiguration (prescaler duty : Value) : Configuration :=
  SortedMap.ofList
    [(.timer0, .pinBound (.ofList [(pinAt .d 6, .ofList [("duty", duty)])])
      (.ofList [("mode", .text "Fast PWM"), ("prescaler", prescaler)]) ∅)]

/-- The prescaler is replaced by a table, and the duty cycle is written as it is. -/
theorem generate_respelled_duty :
    device.generate (dutyConfiguration (.int 8) (.int 100)) none =
        device.generate (dutyConfiguration (.text "8") (.text "100")) none ∧
      ∃ artifact, device.generate (dutyConfiguration (.int 8) (.int 100)) none = .ok artifact := by
  have hprescaler : Value.Respelled (.int 8) (.text "8") := .asText (by decide)
  have hduty : Value.Respelled (.int 100) (.text "100") := .asText (by decide)
  have hpins : SortedMap.Rel (SortedMap.Rel Value.Respelled)
      (.ofList [(pinAt .d 6, .ofList [("duty", .int 100)])])
      (.ofList [(pinAt .d 6, .ofList [("duty", .text "100")])]) :=
    .ofList (.cons ⟨rfl, .ofList (.cons ⟨rfl, hduty⟩ .nil)⟩ .nil)
  have hsettings : SortedMap.Rel Value.Respelled
      (.ofList [("mode", .text "Fast PWM"), ("prescaler", .int 8)])
      (.ofList [("mode", .text "Fast PWM"), ("prescaler", .text "8")]) :=
    .ofList (.cons ⟨rfl, .same _⟩ (.cons ⟨rfl, hprescaler⟩ .nil))
  have hrespelled : (dutyConfiguration (.int 8) (.int 100)).Rel Value.Respelled
      (dutyConfiguration (.text "8") (.text "100")) :=
    SortedMap.Rel.ofList (.cons ⟨rfl, .pinBound hpins hsettings ∅⟩ .nil)
  have hclean : ∀ diagnostic ∈ device.check (dutyConfiguration (.int 8) (.int 100)),
      diagnostic.isError = false := by
    decide +kernel
  exact ⟨device.generate_respelled hrespelled none,
    Device.exists_artifact_of_isClean isSelfContained hclean none⟩

end Atmega328p

end AvrSetup
