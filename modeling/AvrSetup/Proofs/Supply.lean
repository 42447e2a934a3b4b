import AvrSetup.Proofs.Filling
import AvrSetup.Proofs.Jobs
import AvrSetup.Proofs.Resolution
import AvrSetup.Proofs.Validity

/-!
# Descriptors whose code always has its values

A template asks for settings by its placeholders, and a setting that does not matter has no
value. So a template may be selected only where all settings that it asks for matter. This
can be read off a descriptor alone: the condition of a group of templates, and the mode key
that leads to it, have to ensure the conditions under which these settings matter
(`Descriptor.IsSelfContained`). Then the code of every state that fits has all values
(`Descriptor.isSupplied_of_isSelfContained`).
-/

namespace AvrSetup

/-! ## What ensures a clause -/

namespace Clause

theorem holds_anyOf_iff {key : String} {values : List String} {settings : Settings} :
    (anyOf key values).holds settings = true ↔
      ∃ value, settings.get? key = some value ∧ value.keyText ∈ values := by
  unfold holds holdsOf Clause.key
  cases settings.get? key <;> simp

theorem holds_isSet_iff {key : String} {settings : Settings} :
    (isSet key).holds settings = true ↔
      ∃ value, settings.get? key = some value ∧ value.isTruthy = true := by
  unfold holds holdsOf Clause.key
  cases settings.get? key <;> simp

/-- Whether a clause about a setting that is there ensures another clause. -/
def ensures : Clause → Clause → Bool
  | anyOf key values, anyOf other wider => key == other && values.all wider.contains
  | isSet key, isSet other => key == other
  | _, _ => false

/-- What a clause ensures in a record also holds in a record with more settings. -/
theorem holds_of_ensures {clause other : Clause} {settings more : Settings}
    (h : clause.ensures other = true) (hmore : settings.IsWithin more)
    (hholds : clause.holds settings = true) : other.holds more = true := by
  unfold ensures at h
  split at h
  · next key values other wider =>
    obtain ⟨hkey, hvalues⟩ := (Bool.and_eq_true _ _).mp h
    obtain rfl := beq_iff_eq.mp hkey
    obtain ⟨value, hget, hmem⟩ := holds_anyOf_iff.mp hholds
    have hwider := List.contains_iff_mem.mp (List.all_eq_true.mp hvalues _ hmem)
    exact holds_anyOf_iff.mpr ⟨value, hmore _ _ hget, hwider⟩
  · next key other =>
    obtain rfl := beq_iff_eq.mp h
    obtain ⟨value, hget, htruthy⟩ := holds_isSet_iff.mp hholds
    exact holds_isSet_iff.mpr ⟨value, hmore _ _ hget, htruthy⟩
  · cases h

end Clause

namespace Descriptor

variable {descriptor : Descriptor}

/-- Whether a mode key ensures a clause: all values of the mode setting that lead to it are
among those of the clause. -/
def modeEnsures (descriptor : Descriptor) (modeKey : String) : Clause → Bool
  | .anyOf key values => descriptor.mode.any fun mode => mode.field == key &&
      match (descriptor.field? key).map Field.kind with
      | some (.choice options) =>
        options.all fun option => mode.keyFor option != modeKey || values.contains option
      | _ => false
  | _ => false

/-- Whether a clause is ensured by a condition, or by the mode key. -/
def ensures (descriptor : Descriptor) (condition : Option Condition) (modeKey : Option String)
    (clause : Clause) : Bool :=
  (condition.any fun given => given.clauses.any fun other => other.ensures clause) ||
    modeKey.any fun key => descriptor.modeEnsures key clause

/-- Whether a setting of a scope has a value wherever a condition holds and the mode key is a
given one: every field with the key matters there. -/
def offers (descriptor : Descriptor) (scope : Scope) (condition : Option Condition)
    (modeKey : Option String) (key : String) : Bool :=
  ((Settings.fieldsIn descriptor.fields scope).any fun field => field.key == key) &&
    (Settings.fieldsIn descriptor.fields scope).all fun field => field.key != key ||
      field.visible.all fun visible => visible.clauses.all (descriptor.ensures condition modeKey)

/-! ## Records with values that fields may have -/

/-- The values of all declared settings are among those that they may have. -/
def Admits (descriptor : Descriptor) (settings : Settings) : Prop :=
  ∀ key value, settings.get? key = some value →
    ∀ field, descriptor.field? key = some field → field.kind.admits value = true

/-- Whether every default may stand for the field that its key means. -/
def hasValidDefaults (descriptor : Descriptor) : Bool :=
  descriptor.fields.all fun field =>
    (descriptor.field? field.key).all fun first => first.kind.admits field.default

/-- A record that is accepted has such values. -/
theorem AcceptsAll.admits {pin : Option Pin} {settings : Settings}
    (h : descriptor.AcceptsAll pin settings) : descriptor.Admits settings := by
  intro key value hget field hfield
  obtain ⟨other, hother, hadmits, -⟩ := h key value hget
  rw [hfield] at hother
  cases hother
  exact hadmits

theorem admits_empty : descriptor.Admits ∅ := nofun

/-- Records with such values may be put over each other. -/
theorem Admits.overlay {settings upper : Settings} (h : descriptor.Admits settings)
    (hupper : descriptor.Admits upper) : descriptor.Admits (settings.overlay upper) := by
  intro key value hget
  rw [SortedMap.get?_overlay, Option.or_eq_some_iff] at hget
  rcases hget with hget | ⟨-, hget⟩
  · exact hupper key value hget
  · exact h key value hget

/-- The record in force has such values if the given one and the defaults do. -/
theorem Admits.effective (hdefaults : descriptor.hasValidDefaults = true) {given : Settings}
    (h : descriptor.Admits given) (scope : Scope) :
    descriptor.Admits (Settings.effective descriptor.fields scope given) := by
  intro key value hget field hfield
  rcases Settings.given_or_default_of_effective hget with hgiven | ⟨other, hother, rfl, rfl⟩
  · exact h key value hgiven field hfield
  · have hmem : other ∈ descriptor.fields := (List.mem_filter.mp hother).1
    have hdefault := List.all_eq_true.mp hdefaults other hmem
    rw [hfield] at hdefault
    exact hdefault

/-! ## Settings that are offered -/

/-- The mode key ensures what it is said to. -/
theorem holds_of_modeEnsures {settings more : Settings} {modeKey : String} {clause : Clause}
    (hadmits : descriptor.Admits settings)
    (hmode : settings.modeKey? descriptor.mode = some modeKey)
    (h : descriptor.modeEnsures modeKey clause = true) (hmore : settings.IsWithin more) :
    clause.holds more = true := by
  unfold modeEnsures at h
  split at h
  · next key values =>
    cases hdescribed : descriptor.mode with
    | none => simp [hdescribed] at h
    | some mode =>
      simp only [hdescribed, Option.any_some, Bool.and_eq_true, beq_iff_eq] at h
      obtain ⟨rfl, hoptions⟩ := h
      split at hoptions
      · next options hkind =>
        obtain ⟨field, hfield, hchoice⟩ := Option.map_eq_some_iff.mp hkind
        simp only [hdescribed, Settings.modeKey?, bind, Option.bind_some] at hmode
        obtain ⟨value, hget, hkey⟩ := Option.bind_eq_some_iff.mp hmode
        split at hkey
        · have hadmitted := hadmits _ value hget field hfield
          rw [hchoice] at hadmitted
          have hlisted : value.keyText ∈ options := List.contains_iff_mem.mp hadmitted
          have hoption := List.all_eq_true.mp hoptions _ hlisted
          rw [Option.some.inj hkey] at hoption
          have hmem : value.keyText ∈ values := by simpa using hoption
          exact Clause.holds_anyOf_iff.mpr ⟨value, hmore _ _ hget, hmem⟩
        · cases hkey
      · cases hoptions
  · cases h

/-- A setting that is offered is in force. -/
theorem contains_of_offers {scope : Scope} {given : Settings} {condition : Option Condition}
    {modeKey : Option String} {key : String}
    (hadmits : descriptor.Admits (Settings.effective descriptor.fields scope given))
    (hcondition : Condition.holdsIfGiven condition
      (Settings.effective descriptor.fields scope given) = true)
    (hmode : ∀ key, modeKey = some key →
      (Settings.effective descriptor.fields scope given).modeKey? descriptor.mode = some key)
    (h : descriptor.offers scope condition modeKey key = true) :
    (Settings.effective descriptor.fields scope given).contains key = true := by
  obtain ⟨hany, hall⟩ := (Bool.and_eq_true _ _).mp h
  obtain ⟨field, hfield, hkey⟩ := List.any_eq_true.mp hany
  have hmore := Settings.isWithin_filled descriptor.fields scope given
  refine Settings.contains_effective ⟨field, hfield, beq_iff_eq.mp hkey⟩ ?_
  intro other hother hsame
  have hensured := List.all_eq_true.mp hall other hother
  simp only [hsame, bne_self_eq_false, Bool.false_or] at hensured
  unfold Field.isVisible Condition.holdsIfGiven
  cases hvisible : other.visible with
  | none => rfl
  | some visible =>
    rw [hvisible] at hensured
    refine List.all_eq_true.mpr fun clause hclause => ?_
    rcases (Bool.or_eq_true _ _).mp (List.all_eq_true.mp hensured clause hclause) with hby | hby
    · cases condition with
      | none => cases hby
      | some condition =>
        obtain ⟨source, hsource, hensures⟩ := List.any_eq_true.mp hby
        exact Clause.holds_of_ensures hensures hmore
          (List.all_eq_true.mp hcondition source hsource)
    · cases modeKey with
      | none => cases hby
      | some modeKey => exact holds_of_modeEnsures hadmits (hmode modeKey rfl) hby hmore

end Descriptor

/-! ## Parameters -/

/-- The names that stand for a pin and its signal. -/
def Parameters.pinNames : List String :=
  ["pin", "port", "bit", "ddr_reg", "port_reg", "pin_reg", "ddr_bit", "port_bit", "pin_bit",
    "pcint", "signal"]

theorem Parameters.contains_atPin {parameters : Parameters} {pin : Pin} {signal name : String} :
    (parameters.atPin pin signal).contains name = true ↔
      name ∈ pinNames ∨ parameters.contains name = true := by
  have hnames : (pin.symbols ++ [("signal", signal)]).map (·.1) = pinNames := rfl
  rw [← hnames, ← SortedMap.contains_ofList, atPin, SortedMap.contains, SortedMap.get?_overlay,
    Option.isSome_or, Bool.or_eq_true]
  rfl

theorem Parameters.contains_clocked {parameters : Parameters} {frequency : Nat} {name : String} :
    (parameters.clocked (some frequency)).contains name = true ↔
      name = clockParameter ∨ parameters.contains name = true := by
  rw [clocked, SortedMap.contains, SortedMap.get?_insert]
  by_cases h : name = clockParameter <;> simp [h, SortedMap.contains]

namespace Descriptor

variable {descriptor : Descriptor} {state : State}

theorem contains_parametersOf {settings : Settings} {name : String} :
    (descriptor.parametersOf settings).contains name = settings.contains name := by
  simp [parametersOf, Settings.tabulated, SortedMap.contains, SortedMap.get?_mapValues]

/-! ## Self-contained descriptors -/

/-- The keys, apart from the mode key, under which templates of a scope are looked up. -/
def otherKeys (descriptor : Descriptor) : Scope → List String
  | .peripheral => initKey :: descriptor.interrupts.map Interrupt.name
  | .pin => initKey :: descriptor.signals.map Signal.name

/-- The mode key that has to lead to a group of templates, if nothing else does. -/
def modeKeyOf (descriptor : Descriptor) (set : TemplateSet) : Option String :=
  if (descriptor.otherKeys set.scope).contains set.key then none else some set.key

/-- Whether a group of templates has a value for a placeholder wherever it is selected. -/
def suppliesSet (descriptor : Descriptor) (set : TemplateSet) (name : String) : Bool :=
  name == clockParameter || (set.scope == .pin && Parameters.pinNames.contains name) ||
    descriptor.offers set.scope set.condition (descriptor.modeKeyOf set) name

/-- Whether an interrupt has a value for a placeholder wherever it is emitted. -/
def suppliesInterrupt (descriptor : Descriptor) (interrupt : Interrupt) (name : String) : Bool :=
  name == clockParameter || ["vector", "label"].contains name ||
    (interrupt.signal.isSome && Parameters.pinNames.contains name) ||
    descriptor.offers .peripheral interrupt.applies none name

/-- Everything that the code of a peripheral asks for has a value whenever it is asked for. -/
structure IsSelfContained (descriptor : Descriptor) : Prop where
  /-- The descriptor has no fault. -/
  fault?_eq_none : descriptor.fault? = none
  /-- Defaults are values that may be given. -/
  hasValidDefaults : descriptor.hasValidDefaults = true
  /-- The parameters of the init routine always have a value. -/
  offers : ∀ parameter ∈ descriptor.signature.parameters,
    descriptor.offers .peripheral none none parameter.field = true
  /-- The placeholders of templates have a value where these are selected. -/
  suppliesSet : ∀ set ∈ descriptor.templates, ∀ line ∈ set.lines, ∀ name ∈ line.placeholders,
    descriptor.suppliesSet set name = true
  /-- The placeholders of interrupts have a value where these are emitted. -/
  suppliesInterrupt : ∀ interrupt ∈ descriptor.interrupts,
    ∀ line ∈ interrupt.enable ++ interrupt.handler, ∀ name ∈ line.placeholders,
      descriptor.suppliesInterrupt interrupt name = true

instance (descriptor : Descriptor) : Decidable descriptor.IsSelfContained :=
  decidable_of_iff
    (descriptor.fault? = none ∧ descriptor.hasValidDefaults = true ∧
      (∀ parameter ∈ descriptor.signature.parameters,
        descriptor.offers .peripheral none none parameter.field = true) ∧
      (∀ set ∈ descriptor.templates, ∀ line ∈ set.lines, ∀ name ∈ line.placeholders,
        descriptor.suppliesSet set name = true) ∧
      ∀ interrupt ∈ descriptor.interrupts, ∀ line ∈ interrupt.enable ++ interrupt.handler,
        ∀ name ∈ line.placeholders, descriptor.suppliesInterrupt interrupt name = true)
    ⟨fun ⟨hfault, hdefaults, hparameters, hsets, hinterrupts⟩ =>
        ⟨hfault, hdefaults, hparameters, hsets, hinterrupts⟩,
      fun ⟨hfault, hdefaults, hparameters, hsets, hinterrupts⟩ =>
        ⟨hfault, hdefaults, hparameters, hsets, hinterrupts⟩⟩

/-- A group of templates that is chosen is declared for the scope under one of the keys, and
applies. -/
theorem mem_of_mem_chosen {scope : Scope} {keys : List String} {settings : Settings}
    {set : TemplateSet} (h : set ∈ descriptor.chosen scope keys settings) :
    set ∈ descriptor.templates ∧ set.scope = scope ∧ set.key ∈ keys ∧
      set.appliesTo settings = true := by
  unfold chosen at h
  split at h
  · next key hkey =>
    obtain ⟨hmem, htest⟩ := List.mem_filter.mp h
    simp only [Bool.and_eq_true, beq_iff_eq] at htest
    obtain ⟨⟨hscope, hset⟩, happlies⟩ := htest
    exact ⟨hmem, hscope, hset ▸ List.mem_of_find?_eq_some hkey, happlies⟩
  · cases h

/-- A group of templates that is chosen by the mode key and other keys, and is not found under
these, is found under the mode key. -/
theorem modeKey?_of_mem_chosen {scope : Scope} {keys : List String} {settings : Settings}
    {set : TemplateSet} (h : set ∈ descriptor.chosen scope keys settings)
    (hkeys : ∀ key ∈ keys, settings.modeKey? descriptor.mode = some key ∨
      key ∈ descriptor.otherKeys scope) :
    ∀ key, descriptor.modeKeyOf set = some key →
      settings.modeKey? descriptor.mode = some key := by
  obtain ⟨-, rfl, hkey, -⟩ := mem_of_mem_chosen h
  intro key hmode
  unfold modeKeyOf at hmode
  split at hmode
  · cases hmode
  · next hother =>
    cases hmode
    exact (hkeys _ hkey).resolve_right fun hmem => hother (List.contains_iff_mem.mpr hmem)

/-- The groups for the peripheral are found under the mode key or another key. -/
theorem mem_sharedKeys (hfits : descriptor.Fits state) (settings : Settings) :
    ∀ key ∈ descriptor.sharedKeys state settings,
      settings.modeKey? descriptor.mode = some key ∨ key ∈ descriptor.otherKeys .peripheral := by
  intro key hkey
  rcases List.mem_append.mp hkey with hkey | hkey
  · rcases List.mem_append.mp hkey with hkey | hkey
    · cases state with
      | interruptOnly wanted own =>
        obtain rfl := List.mem_singleton.mp hkey
        have hsome := hfits.interrupts (key, true) (List.mem_singleton.mpr rfl)
        obtain ⟨interrupt, hinterrupt⟩ := Option.isSome_iff_exists.mp hsome
        have hname : interrupt.name = key := by simpa using List.find?_some hinterrupt
        refine Or.inr (List.mem_cons_of_mem _ (List.mem_map.mpr ⟨interrupt, ?_, hname⟩))
        exact List.mem_of_find?_eq_some hinterrupt
      | pinBound pins own interrupts => cases hkey
      | global enabled own interrupts => cases hkey
    · exact Or.inl (Option.mem_toList.mp hkey)
  · rw [List.mem_singleton.mp hkey]
    exact Or.inr List.mem_cons_self

/-- The groups for a pin are found under the mode key or another key. -/
theorem mem_pinKeys {signal : String} (hsignal : signal ∈ descriptor.signals.map Signal.name)
    (settings : Settings) :
    ∀ key ∈ descriptor.pinKeys signal settings,
      settings.modeKey? descriptor.mode = some key ∨ key ∈ descriptor.otherKeys .pin := by
  intro key hkey
  rcases List.mem_append.mp hkey with hkey | hkey
  · exact Or.inl (Option.mem_toList.mp hkey)
  · rcases List.mem_cons.mp hkey with rfl | hkey
    · exact Or.inr (List.mem_cons_of_mem _ hsignal)
    · rw [List.mem_singleton.mp hkey]
      exact Or.inr List.mem_cons_self

/-- A visited pin has a declared signal. -/
theorem signalAt_mem_of_visitedPins (hcoherent : descriptor.IsCoherent) {pin : Pin}
    (hpin : pin ∈ descriptor.visitedPins state) :
    descriptor.signalAt pin ∈ descriptor.signals.map Signal.name := by
  have hdeclared := mem_declaredPins_of_visitedPins hpin
  obtain ⟨signal, hsignal, hmem⟩ := List.mem_flatMap.mp hdeclared
  rw [signalAt_eq hcoherent.nodup_declaredPins hsignal hmem]
  exact List.mem_map_of_mem hsignal

/-- The settings for the peripheral may have their values. -/
theorem admits_peripheralSettings (hdefaults : descriptor.hasValidDefaults = true)
    (hfits : descriptor.Fits state) : descriptor.Admits (descriptor.peripheralSettings state) :=
  hfits.settings.admits.effective hdefaults .peripheral

/-- The settings for a pin may have their values. -/
theorem admits_pinSettings (hdefaults : descriptor.hasValidDefaults = true)
    (hfits : descriptor.Fits state) (pin : Pin) :
    descriptor.Admits (descriptor.pinSettings (descriptor.peripheralSettings state)
      (state.settingsAt pin)) := by
  have hgiven : descriptor.Admits (state.settingsAt pin) := by
    unfold State.settingsAt
    cases hget : state.pinSettings.get? pin with
    | none => exact admits_empty
    | some given => exact (hfits.pins pin given hget).2.admits
  exact ((admits_peripheralSettings hdefaults hfits).overlay hgiven).effective hdefaults .pin

/-- A chosen group of templates has all values, if its parameters have all settings in force and
those for a pin also the names that stand for it. -/
theorem isFilled_of_mem_chosen (hself : descriptor.IsSelfContained) {scope : Scope}
    {given : Settings} {keys : List String} {parameters : Parameters} {set : TemplateSet}
    (hadmits : descriptor.Admits (Settings.effective descriptor.fields scope given))
    (hset : set ∈ descriptor.chosen scope keys (Settings.effective descriptor.fields scope given))
    (hkeys : ∀ key ∈ keys, (Settings.effective descriptor.fields scope given).modeKey?
      descriptor.mode = some key ∨ key ∈ descriptor.otherKeys scope)
    (hsettings : ∀ name, (Settings.effective descriptor.fields scope given).contains name = true →
      parameters.contains name = true)
    (hpin : scope = .pin → ∀ name ∈ Parameters.pinNames, parameters.contains name = true)
    (frequency : Nat) : (Job.group set parameters).IsFilled (some frequency) := by
  obtain ⟨hmem, rfl, -, happlies⟩ := mem_of_mem_chosen hset
  intro line hline name hname
  rw [Parameters.contains_clocked]
  have hsupplies := hself.suppliesSet set hmem line hline name hname
  simp only [Descriptor.suppliesSet, Bool.or_eq_true, Bool.and_eq_true, beq_iff_eq,
    List.contains_iff_mem] at hsupplies
  rcases hsupplies with (hclock | ⟨hscope, hpinName⟩) | hoffers
  · exact Or.inl hclock
  · exact Or.inr (hpin hscope name hpinName)
  · exact Or.inr (hsettings name
      (contains_of_offers hadmits happlies (modeKey?_of_mem_chosen hset hkeys) hoffers))

/-- The groups of templates for the peripheral have all values. -/
theorem isFilled_shared (hself : descriptor.IsSelfContained) (hfits : descriptor.Fits state)
    {set : TemplateSet}
    (hset : set ∈ descriptor.sharedSets state (descriptor.peripheralSettings state))
    (frequency : Nat) :
    (Job.group set (descriptor.parametersOf (descriptor.peripheralSettings state))).IsFilled
      (some frequency) := by
  rw [sharedSets_eq_chosen] at hset
  refine isFilled_of_mem_chosen hself (admits_peripheralSettings hself.hasValidDefaults hfits)
    hset (mem_sharedKeys hfits _) (fun name hname => ?_) nofun frequency
  rw [contains_parametersOf]
  exact hname

/-- The groups of templates for a visited pin have all values. -/
theorem isFilled_visit (hself : descriptor.IsSelfContained) (hfits : descriptor.Fits state)
    {pin : Pin} (hpin : pin ∈ descriptor.visitedPins state) {job : Job}
    (hjob : job ∈ descriptor.visitJobs state pin) (frequency : Nat) :
    job.IsFilled (some frequency) := by
  have hcoherent := fault?_eq_none_iff.mp hself.fault?_eq_none
  obtain ⟨set, hset, rfl⟩ := List.mem_map.mp hjob
  rw [pinSets_eq_chosen] at hset
  refine isFilled_of_mem_chosen hself (admits_pinSettings hself.hasValidDefaults hfits pin)
    hset (mem_pinKeys (signalAt_mem_of_visitedPins hcoherent hpin) _) (fun name hname => ?_)
    (fun _ name hname => ?_) frequency
  · rw [Parameters.contains_atPin, contains_parametersOf]
    exact Or.inr hname
  · rw [Parameters.contains_atPin]
    exact Or.inl hname

/-- The parameters for an interrupt are its own names, those of its pin, and the settings in
force. -/
theorem contains_interruptParameters {interrupt : Interrupt} {name : String}
    (hcarried : ∀ signal, interrupt.signal = some signal →
      (descriptor.carrier? state interrupt.name signal).isSome = true)
    (h : name ∈ ["vector", "label"] ∨
      (interrupt.signal.isSome = true ∧ name ∈ Parameters.pinNames) ∨
      (descriptor.peripheralSettings state).contains name = true) :
    (descriptor.interruptParameters state interrupt).contains name = true := by
  have hinsert (parameters : Parameters) (hname : name ∈ ["vector", "label"] ∨
      parameters.contains name = true) :
      ((parameters.insert "vector" interrupt.vector).insert "label" interrupt.label).contains
        name = true := by
    rw [SortedMap.contains, SortedMap.get?_insert, SortedMap.get?_insert]
    rcases hname with hname | hname
    · simp only [List.mem_cons, List.not_mem_nil, or_false] at hname
      rcases hname with rfl | rfl <;> rfl
    · split
      · rfl
      · split
        · rfl
        · exact hname
  unfold interruptParameters
  refine hinsert _ (h.imp_right fun hshared => ?_)
  cases hsignal : interrupt.signal with
  | none =>
    rcases hshared with ⟨hsome, -⟩ | hcontains
    · rw [hsignal] at hsome
      cases hsome
    · rwa [contains_parametersOf]
  | some signal =>
    obtain ⟨pin, hpin⟩ := Option.isSome_iff_exists.mp (hcarried signal hsignal)
    simp only [hpin]
    rw [Parameters.contains_atPin, contains_parametersOf]
    exact hshared.imp_left And.right

/-- The code of an emitted interrupt has all values. -/
theorem isFilled_interrupt (hself : descriptor.IsSelfContained) (hfits : descriptor.Fits state)
    {interrupt : Interrupt} (hinterrupt : interrupt ∈ descriptor.interrupts)
    (hemits : descriptor.emits state interrupt = true) (frequency : Nat) :
    (Job.interrupt interrupt (descriptor.interruptParameters state interrupt)).IsFilled
      (some frequency) := by
  have hcoherent := fault?_eq_none_iff.mp hself.fault?_eq_none
  simp only [emits, Bool.and_eq_true] at hemits
  obtain ⟨⟨-, happlies⟩, hsignal⟩ := hemits
  have hcarried : ∀ signal, interrupt.signal = some signal →
      (descriptor.carrier? state interrupt.name signal).isSome = true := by
    intro signal heq
    rw [isSome_carrier? (hcoherent.pinsOf_ne_nil interrupt hinterrupt signal heq)]
    rwa [heq] at hsignal
  intro line hline name hname
  have hsupplies := hself.suppliesInterrupt interrupt hinterrupt line hline name hname
  simp only [Descriptor.suppliesInterrupt, Bool.or_eq_true, Bool.and_eq_true, beq_iff_eq,
    List.contains_iff_mem] at hsupplies
  rw [Parameters.contains_clocked]
  rcases hsupplies with ((hclock | hown) | hpin) | hoffers
  · exact Or.inl hclock
  · exact Or.inr (contains_interruptParameters hcarried (Or.inl hown))
  · exact Or.inr (contains_interruptParameters hcarried (Or.inr (Or.inl hpin)))
  · have hcontains := contains_of_offers (admits_peripheralSettings hself.hasValidDefaults hfits)
      happlies (fun _ hnone => by cases hnone) hoffers
    exact Or.inr (contains_interruptParameters hcarried (Or.inr (Or.inr hcontains)))

/-- Where the clock is known, the code of a self-contained peripheral has all values for every
state that fits. -/
theorem isSupplied_of_isSelfContained (hself : descriptor.IsSelfContained)
    (hfits : descriptor.Fits state) (frequency : Nat) :
    descriptor.IsSupplied state (some frequency) := by
  have hcoherent := fault?_eq_none_iff.mp hself.fault?_eq_none
  constructor
  · intro parameter hparameter
    have hadmits := admits_peripheralSettings hself.hasValidDefaults hfits
    exact contains_of_offers hadmits rfl (fun _ hnone => by cases hnone)
      (hself.offers parameter hparameter)
  · intro job hjob
    rw [jobs_eq hcoherent] at hjob
    rcases List.mem_append.mp hjob with hjob | hjob
    · rcases List.mem_append.mp hjob with hjob | hjob
      · obtain ⟨set, hset, rfl⟩ := List.mem_map.mp hjob
        exact isFilled_shared hself hfits hset frequency
      · obtain ⟨pin, hpin, hjob⟩ := List.mem_flatMap.mp hjob
        exact isFilled_visit hself hfits hpin hjob frequency
    · obtain ⟨interrupt, hinterrupt, rfl⟩ := List.mem_map.mp hjob
      obtain ⟨hmem, hemits⟩ := List.mem_filter.mp hinterrupt
      exact isFilled_interrupt hself hfits hmem hemits frequency

end Descriptor

end AvrSetup
