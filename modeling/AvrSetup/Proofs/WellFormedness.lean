import AvrSetup.Proofs.SingleInterrupt

/-!
# Accepted descriptions are well formed

What a description guarantees is established in several places: templates are checked where
they are read, defaults with their fields, references once a peripheral is complete, and the
peripherals against each other at the end. This file follows these checks through all children
of a document, in whatever order they come, and puts the results together
(`Device.wellFormed_if_accepted`).
-/

namespace AvrSetup

/-! ## Templates -/

/-- A placeholder is an identifier, and a literal text has no two opening braces in a row. -/
def Segment.IsWellFormed : Segment → Prop
  | literal text => ¬['\x7b', '\x7b'] <:+: text.toList
  | placeholder name => Text.isIdentifier name.toList = true

namespace Template

/-- All segments of a template are well formed. -/
def IsWellFormed (template : Template) : Prop := ∀ segment ∈ template.segments, segment.IsWellFormed

/-- A text is found to have two opening braces in a row exactly if it does. -/
theorem hasOpening_iff {text : List Char} :
    hasOpening text = true ↔ ['\x7b', '\x7b'] <:+: text := by
  fun_induction hasOpening text with
  | case1 rest => exact iff_of_true rfl ⟨[], rest, rfl⟩
  | case2 c rest hopening ih =>
    rw [ih, List.infix_cons_iff]
    refine (or_iff_right ?_).symm
    rintro ⟨behind, heq⟩
    cases heq
    exact hopening behind rfl rfl
  | case3 => simp

/-- The segment that is read from a literal text is well formed. -/
theorem isWellFormed_of_literalSegments {source : String} {text : List Char}
    {segments : List Segment} (h : literalSegments source text = .ok segments) :
    ∀ segment ∈ segments, segment.IsWellFormed := by
  unfold literalSegments at h
  split at h
  · cases h
  · next hopening =>
    split at h
    · cases h
      exact List.forall_mem_nil _
    · cases h
      refine List.forall_mem_singleton.mpr ?_
      rw [Segment.IsWellFormed, String.toList_ofList, ← hasOpening_iff]
      exact hopening

/-- The segment that is read from the inside of a placeholder is well formed. -/
theorem isWellFormed_of_placeholderSegment {source : String} {inside : List Char}
    {segment : Segment} (h : placeholderSegment source inside = .ok segment) :
    segment.IsWellFormed := by
  unfold placeholderSegment at h
  dsimp only at h
  split at h
  · next hidentifier =>
    cases h
    rw [Segment.IsWellFormed, String.toList_ofList]
    exact hidentifier
  · cases h

/-- The segments that are read from the first placeholder on are well formed. -/
theorem isWellFormed_of_holeSegments {source : String} {holes : List (List Char × List Char)}
    {segments : List Segment} (h : holeSegments source holes = .ok segments) :
    ∀ segment ∈ segments, segment.IsWellFormed := by
  induction holes generalizing segments with
  | nil =>
    cases h
    exact List.forall_mem_nil _
  | cons hole holes ih =>
    simp only [holeSegments, bind_eq_ok_iff] at h
    obtain ⟨name, hname, literal, hliteral, rest, hrest, heq⟩ := h
    cases heq
    refine List.forall_mem_append.mpr ⟨List.forall_mem_cons.mpr ⟨?_, ?_⟩, ih hrest⟩
    · exact isWellFormed_of_placeholderSegment hname
    · exact isWellFormed_of_literalSegments hliteral

/-- A template that is read is well formed. -/
theorem isWellFormed_of_parse {source : String} {template : Template}
    (h : parse source = .ok template) : template.IsWellFormed := by
  simp only [parse, bind_eq_ok_iff] at h
  obtain ⟨lead, hlead, rest, hrest, heq⟩ := h
  cases heq
  exact List.forall_mem_append.mpr
    ⟨isWellFormed_of_literalSegments hlead, isWellFormed_of_holeSegments hrest⟩

end Template

namespace Device

open Xml (Element)

/-! ## Elements that hold code -/

/-- Well-formed lines stay so when one more is read behind them. -/
theorem isWellFormed_concat_of_templateOf {element : Element} {lines : List Template}
    {template : Template} (hlines : ∀ line ∈ lines, line.IsWellFormed)
    (h : templateOf element = .ok template) : ∀ line ∈ lines ++ [template], line.IsWellFormed := by
  refine List.forall_mem_append.mpr ⟨hlines, List.forall_mem_singleton.mpr ?_⟩
  exact Template.isWellFormed_of_parse (mapError_eq_ok_iff.mp h)

/-- Templates of both kinds are well formed. -/
structure Lines.IsWellFormed (lines : Lines) : Prop where
  /-- Those of the first kind are. -/
  first : ∀ line ∈ lines.first, line.IsWellFormed
  /-- Those of the second kind are. -/
  second : ∀ line ∈ lines.second, line.IsWellFormed

theorem Lines.isWellFormed_nil : Lines.IsWellFormed ⟨[], [], []⟩ :=
  ⟨List.forall_mem_nil _, List.forall_mem_nil _⟩

/-- Lines stay well formed when another child of a template set is taken. -/
theorem isWellFormed_of_takeTemplateChild {element child : Element} {lines next : Lines}
    (hlines : lines.IsWellFormed) (h : takeTemplateChild element lines child = .ok next) :
    next.IsWellFormed := by
  unfold takeTemplateChild at h
  split at h
  · cases h
    exact ⟨hlines.first, hlines.second⟩
  · obtain ⟨template, htemplate, h⟩ := bind_eq_ok_iff.mp h
    cases h
    exact ⟨isWellFormed_concat_of_templateOf hlines.first htemplate, hlines.second⟩
  · cases h

/-- Lines stay well formed when another child of an interrupt is taken. -/
theorem isWellFormed_of_takeInterruptChild {element child : Element} {lines next : Lines}
    (hlines : lines.IsWellFormed) (h : takeInterruptChild element lines child = .ok next) :
    next.IsWellFormed := by
  unfold takeInterruptChild at h
  split at h
  · cases h
    exact ⟨hlines.first, hlines.second⟩
  · obtain ⟨template, htemplate, h⟩ := bind_eq_ok_iff.mp h
    cases h
    exact ⟨isWellFormed_concat_of_templateOf hlines.first htemplate, hlines.second⟩
  · obtain ⟨template, htemplate, h⟩ := bind_eq_ok_iff.mp h
    cases h
    exact ⟨hlines.first, isWellFormed_concat_of_templateOf hlines.second htemplate⟩
  · cases h

/-- The lines of a template set that is read are well formed. -/
theorem isWellFormed_of_readTemplateSet {element : Element} {set : TemplateSet}
    (h : readTemplateSet element = .ok set) : ∀ line ∈ set.lines, line.IsWellFormed := by
  simp only [readTemplateSet, bind_eq_ok_iff] at h
  obtain ⟨lines, hlines, scope, -, key, -, condition, -, heq⟩ := h
  cases heq
  have hall : lines.IsWellFormed :=
    foldlM_invariant (fun _ _ _ => isWellFormed_of_takeTemplateChild) Lines.isWellFormed_nil hlines
  exact hall.first

/-- The lines of an interrupt that is read are well formed. -/
theorem isWellFormed_of_readInterrupt {element : Element} {interrupt : Interrupt}
    (h : readInterrupt element = .ok interrupt) :
    ∀ line ∈ interrupt.enable ++ interrupt.handler, line.IsWellFormed := by
  simp only [readInterrupt, bind_eq_ok_iff] at h
  obtain ⟨name, -, lines, hlines, vector, -, enabled, -, applies, -, heq⟩ := h
  cases heq
  have hall : lines.IsWellFormed :=
    foldlM_invariant (fun _ _ _ => isWellFormed_of_takeInterruptChild) Lines.isWellFormed_nil hlines
  exact List.forall_mem_append.mpr ⟨hall.first, hall.second⟩

/-- The default of a field that is read is one of its values. -/
theorem admits_default_of_readField {element : Element} {field : Field}
    (h : readField element = .ok field) : field.kind.admits field.default = true := by
  simp only [readField, bind_eq_ok_iff] at h
  obtain ⟨key, -, kind, -, scope, -, text, -, h⟩ := h
  split at h
  · cases h
  · next default hdefault =>
    obtain ⟨visible, -, heq⟩ := bind_eq_ok_iff.mp h
    cases heq
    exact (Option.filter_eq_some_iff.mp hdefault).2

/-! ## Peripherals -/

/-- The parts of a peripheral are well formed each by itself. -/
structure Parts.IsWellFormed (parts : Parts) : Prop where
  /-- The default of a field is one of its values. -/
  admits_default : ∀ field ∈ parts.fields, field.kind.admits field.default = true
  /-- The lines of template sets are well formed. -/
  templates : ∀ set ∈ parts.templates, ∀ line ∈ set.lines, line.IsWellFormed
  /-- The lines of interrupts are well formed. -/
  interrupts : ∀ interrupt ∈ parts.interrupts,
    ∀ line ∈ interrupt.enable ++ interrupt.handler, line.IsWellFormed

/-- Parts stay well formed when another child of a peripheral is taken. -/
theorem isWellFormed_of_takePart {element child : Element} {parts next : Parts}
    (hparts : parts.IsWellFormed) (h : takePart element parts child = .ok next) :
    next.IsWellFormed := by
  obtain ⟨hfields, htemplates, hinterrupts⟩ := hparts
  unfold takePart at h
  split at h
  · -- a signal
    obtain ⟨name, -, h⟩ := bind_eq_ok_iff.mp h
    obtain ⟨pins, -, h⟩ := bind_eq_ok_iff.mp h
    cases h
    exact ⟨hfields, htemplates, hinterrupts⟩
  · -- a field
    obtain ⟨field, hfield, h⟩ := bind_eq_ok_iff.mp h
    cases h
    refine ⟨List.forall_mem_append.mpr ⟨hfields, ?_⟩, htemplates, hinterrupts⟩
    exact List.forall_mem_singleton.mpr (admits_default_of_readField hfield)
  · -- the mode
    obtain ⟨field, -, h⟩ := bind_eq_ok_iff.mp h
    obtain ⟨table, -, h⟩ := bind_eq_ok_iff.mp h
    cases h
    exact ⟨hfields, htemplates, hinterrupts⟩
  · -- a table of values
    obtain ⟨field, -, h⟩ := bind_eq_ok_iff.mp h
    obtain ⟨table, -, h⟩ := bind_eq_ok_iff.mp h
    cases h
    exact ⟨hfields, htemplates, hinterrupts⟩
  · -- the init routine
    obtain ⟨signature, -, h⟩ := bind_eq_ok_iff.mp h
    cases h
    exact ⟨hfields, htemplates, hinterrupts⟩
  · -- an interrupt
    obtain ⟨interrupt, hinterrupt, h⟩ := bind_eq_ok_iff.mp h
    cases h
    refine ⟨hfields, htemplates, List.forall_mem_append.mpr ⟨hinterrupts, ?_⟩⟩
    exact List.forall_mem_singleton.mpr (isWellFormed_of_readInterrupt hinterrupt)
  · -- a template set
    obtain ⟨set, hset, h⟩ := bind_eq_ok_iff.mp h
    cases h
    refine ⟨hfields, List.forall_mem_append.mpr ⟨htemplates, ?_⟩, hinterrupts⟩
    exact List.forall_mem_singleton.mpr (isWellFormed_of_readTemplateSet hset)
  · cases h

end Device

namespace Descriptor

/-- Some field has a key. -/
def Declares (descriptor : Descriptor) (key : String) : Prop :=
  ∃ field ∈ descriptor.fields, field.key = key

/-- A descriptor can be relied upon by all that looks into it. -/
structure IsWellFormed (descriptor : Descriptor) : Prop where
  /-- No pin is reached twice, neither by one signal nor by two. -/
  nodup_declaredPins : descriptor.declaredPins.Nodup
  /-- A peripheral without pins has no signals. -/
  signals_eq_nil : descriptor.footprint = .global → descriptor.signals = []
  /-- The conditions of fields read declared settings. -/
  declares_visible : ∀ field ∈ descriptor.fields, ∀ condition, field.visible = some condition →
    ∀ key ∈ condition.keys, descriptor.Declares key
  /-- The conditions of templates read declared settings. -/
  declares_condition : ∀ set ∈ descriptor.templates, ∀ condition,
    set.condition = some condition → ∀ key ∈ condition.keys, descriptor.Declares key
  /-- The conditions of interrupts read declared settings. -/
  declares_applies : ∀ interrupt ∈ descriptor.interrupts, ∀ condition,
    interrupt.applies = some condition → ∀ key ∈ condition.keys, descriptor.Declares key
  /-- Tables are about declared settings. -/
  declares_table : ∀ key ∈ descriptor.tables.keys, descriptor.Declares key
  /-- The mode is a declared setting. -/
  declares_mode : ∀ mode, descriptor.mode = some mode → descriptor.Declares mode.field
  /-- The parameters of the init routine are filled by declared settings. -/
  declares_parameter : ∀ parameter ∈ descriptor.signature.parameters,
    descriptor.Declares parameter.field
  /-- The signal of an interrupt reaches some pin. -/
  exists_mem_pinsOf : ∀ interrupt ∈ descriptor.interrupts, ∀ signal,
    interrupt.signal = some signal → ∃ pin, pin ∈ descriptor.pinsOf signal
  /-- The default of a field is one of its values. -/
  admits_default : ∀ field ∈ descriptor.fields, field.kind.admits field.default = true
  /-- The default of an integer lies in its range. -/
  default_mem_range : ∀ field ∈ descriptor.fields, ∀ least greatest,
    field.kind = .int least greatest →
      ∃ number, field.default = .int number ∧ least ≤ number ∧ number ≤ greatest
  /-- The lines of template sets are well formed. -/
  templates : ∀ set ∈ descriptor.templates, ∀ line ∈ set.lines, line.IsWellFormed
  /-- The lines of interrupts are well formed. -/
  interrupts : ∀ interrupt ∈ descriptor.interrupts,
    ∀ line ∈ interrupt.enable ++ interrupt.handler, line.IsWellFormed

end Descriptor

/-- A value that an integer setting may have lies in its range. -/
theorem FieldKind.admits_int_iff {least greatest : Int} {value : Value} :
    (FieldKind.int least greatest).admits value = true ↔
      ∃ number, value = .int number ∧ least ≤ number ∧ number ≤ greatest := by
  cases value <;> simp [admits]

namespace Descriptor

variable {descriptor : Descriptor}

/-- A coherent descriptor declares the settings that it refers to. -/
theorem IsCoherent.declares (hcoherent : descriptor.IsCoherent) {key : String}
    (hkey : key ∈ descriptor.referredFields) : descriptor.Declares key := by
  obtain ⟨field, hfield⟩ := Option.isSome_iff_exists.mp (hcoherent.isSome_field key hkey)
  have hkey : field.key = key := by simpa using List.find?_some hfield
  exact ⟨field, List.mem_of_find?_eq_some hfield, hkey⟩

/-- The settings that a condition of a descriptor reads are among those that it refers to. -/
theorem mem_referredFields_of_condition {condition : Condition}
    (hcondition : condition ∈ descriptor.conditions) {key : String} (hkey : key ∈ condition.keys) :
    key ∈ descriptor.referredFields := by
  have hmem : key ∈ descriptor.conditions.flatMap Condition.keys :=
    List.mem_flatMap.mpr ⟨condition, hcondition, hkey⟩
  simp only [referredFields, List.mem_append, hmem, true_or]

/-- A coherent descriptor is well formed if its parts are. -/
theorem IsCoherent.isWellFormed (hcoherent : descriptor.IsCoherent)
    (hdefaults : ∀ field ∈ descriptor.fields, field.kind.admits field.default = true)
    (htemplates : ∀ set ∈ descriptor.templates, ∀ line ∈ set.lines, line.IsWellFormed)
    (hinterrupts : ∀ interrupt ∈ descriptor.interrupts,
      ∀ line ∈ interrupt.enable ++ interrupt.handler, line.IsWellFormed) :
    descriptor.IsWellFormed where
  nodup_declaredPins := hcoherent.nodup_declaredPins
  signals_eq_nil := hcoherent.signals_eq_nil
  declares_visible := by
    intro field hfield condition hcondition key hkey
    have hmem : condition ∈ descriptor.fields.filterMap Field.visible :=
      List.mem_filterMap.mpr ⟨field, hfield, hcondition⟩
    refine hcoherent.declares (mem_referredFields_of_condition ?_ hkey)
    simp only [conditions, List.mem_append, hmem, true_or]
  declares_condition := by
    intro set hset condition hcondition key hkey
    have hmem : condition ∈ descriptor.templates.filterMap TemplateSet.condition :=
      List.mem_filterMap.mpr ⟨set, hset, hcondition⟩
    refine hcoherent.declares (mem_referredFields_of_condition ?_ hkey)
    simp only [conditions, List.mem_append, hmem, or_true, true_or]
  declares_applies := by
    intro interrupt hinterrupt condition hcondition key hkey
    have hmem : condition ∈ descriptor.interrupts.filterMap Interrupt.applies :=
      List.mem_filterMap.mpr ⟨interrupt, hinterrupt, hcondition⟩
    refine hcoherent.declares (mem_referredFields_of_condition ?_ hkey)
    simp only [conditions, List.mem_append, hmem, or_true]
  declares_table := by
    intro key hkey
    refine hcoherent.declares ?_
    simp only [referredFields, List.mem_append, hkey, or_true, true_or]
  declares_mode := by
    intro mode hmode
    have hmem : mode.field ∈ descriptor.mode.toList.map ModeTable.field := by simp [hmode]
    refine hcoherent.declares ?_
    simp only [referredFields, List.mem_append, hmem, or_true, true_or]
  declares_parameter := by
    intro parameter hparameter
    have hmem : parameter.field ∈ descriptor.signature.parameters.map Parameter.field :=
      List.mem_map_of_mem hparameter
    refine hcoherent.declares ?_
    simp only [referredFields, List.mem_append, hmem, or_true]
  exists_mem_pinsOf := by
    intro interrupt hinterrupt signal hsignal
    exact List.exists_mem_of_ne_nil _ (hcoherent.pinsOf_ne_nil interrupt hinterrupt signal hsignal)
  admits_default := hdefaults
  default_mem_range := by
    intro field hfield least greatest hkind
    have hadmits := hdefaults field hfield
    rw [hkind] at hadmits
    exact FieldKind.admits_int_iff.mp hadmits
  templates := htemplates
  interrupts := hinterrupts

end Descriptor

namespace Device

/-- A device can be relied upon by all that looks into it. -/
structure IsWellFormed (device : Device) : Prop where
  /-- No peripheral is described twice. -/
  nodup_ids : (device.peripherals.map Descriptor.id).Nodup
  /-- All peripherals are well formed. -/
  isWellFormed : ∀ descriptor ∈ device.peripherals, descriptor.IsWellFormed

/-- A peripheral that is read is well formed. -/
theorem isWellFormed_of_readPeripheral {element : Xml.Element} {descriptor : Descriptor}
    (h : readPeripheral element = .ok descriptor) : descriptor.IsWellFormed := by
  have hcoherent := isCoherent_of_readPeripheral h
  unfold readPeripheral at h
  simp only [bind_eq_ok_iff] at h
  obtain ⟨_, -, _, -, _, -, parts, hparts, _, -, h⟩ := h
  have hall : parts.IsWellFormed :=
    foldlM_invariant (fun _ _ _ => isWellFormed_of_takePart)
      ⟨List.forall_mem_nil _, List.forall_mem_nil _, List.forall_mem_nil _⟩ hparts
  split at h
  · cases h
  · cases h
    exact hcoherent.isWellFormed hall.admits_default hall.templates hall.interrupts

/-- A description that is accepted is well formed: no two of its peripherals are the same, and
each of them maps every pin at most once, refers to declared settings and mapped signals only,
has defaults that are values of their fields, and has lines whose placeholders are
identifiers and whose other text opens none. -/
theorem wellFormed_if_accepted {text : String} {device : Device} (h : parse text = .ok device) :
    device.IsWellFormed where
  nodup_ids := (isCoherent_of_parse h).nodup_ids
  isWellFormed := by
    intro descriptor hdescriptor
    obtain ⟨element, hread⟩ := exists_readPeripheral_of_parse h hdescriptor
    exact isWellFormed_of_readPeripheral hread

/-- The device with external interrupts is well formed. -/
theorem wellFormed_if_accepted_extint :
    parse extintText = .ok extintDevice ∧ extintDevice.IsWellFormed :=
  ⟨parse_extintText, wellFormed_if_accepted parse_extintText⟩

end Device

end AvrSetup
