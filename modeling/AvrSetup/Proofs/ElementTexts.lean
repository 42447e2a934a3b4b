import AvrSetup.Proofs.Description
import AvrSetup.Proofs.MergedTexts
import AvrSetup.Proofs.Pieces
import Mathlib.Data.List.Forall2

/-!
# The code of a description

Lines of code and names of headers are the texts of elements (`Device.codeElements`). Every such
element of an accepted description gives one line or header, in document order
(`Device.IsReadWith`), which is the text at its start without the blanks around it. That is all
of its character data exactly if there are only blanks behind the first comment, processing
instruction or element in it (`Device.exists_isReadWith_of_parse`). What else stands there is
left out without a word (`Device.texts_left_out`).
-/

namespace AvrSetup

/-! ## Blanks behind a text -/

namespace Text

/-- Trimming takes only blanks away. -/
theorem countP_trim (text : List Char) :
    (trim text).countP (fun c => !isBlank c) = text.countP (fun c => !isBlank c) := by
  have hblanks {blanks : List Char} (h : ∀ c ∈ blanks, isBlank c = true) :
      blanks.countP (fun c => !isBlank c) = 0 := by
    rw [List.countP_eq_zero]
    intro c hc
    simp [h c hc]
  obtain ⟨before, after, hbefore, hafter, htext⟩ := exists_padding text
  conv_rhs => rw [htext, List.countP_append, List.countP_append, hblanks hbefore, hblanks hafter]
  rw [Nat.zero_add, Nat.add_zero]

/-- What stands behind a text is trimmed away exactly if it is blank. -/
theorem trim_append_eq_iff {text behind : List Char} :
    trim text = trim (text ++ behind) ↔ ∀ c ∈ behind, isBlank c = true := by
  constructor
  · -- Both sides have as many characters that are not blank as what they are trimmed from.
    intro htrim
    have hcount := congrArg (List.countP fun c => !isBlank c) htrim
    rw [countP_trim, countP_trim, List.countP_append] at hcount
    have hnone : behind.countP (fun c => !isBlank c) = 0 := by omega
    intro c hc
    simpa using List.countP_eq_zero.mp hnone c hc
  · intro hblank
    simpa using (@trim_padding [] text behind (List.forall_mem_nil _) hblank).symm

end Text

/-- A template knows the text that it was read from. -/
theorem Template.source_of_parse {source : String} {template : Template}
    (h : parse source = .ok template) : template.source = source := by
  unfold parse at h
  simp only [bind_eq_ok_iff] at h
  obtain ⟨_, -, _, -, ⟨⟩⟩ := h
  rfl

/-! ## Runs over elements -/

section Runs

variable {ε α β γ : Type}

/-- A run with a step that puts a result behind others for the members that pass a test, and for
no others, has the results for these members in order. -/
theorem forall₂_of_foldlM {step : β → α → Except ε β} {view : β → List γ} {p : α → Bool}
    {r : γ → α → Prop}
    (hstep : ∀ state member next, step state member = .ok next →
      p member = true ∧ (∃ result, r result member ∧ view next = view state ++ [result]) ∨
        p member = false ∧ view next = view state)
    {list : List α} {first last : β} (hrun : list.foldlM step first = .ok last) :
    ∃ results, view last = view first ++ results ∧ List.Forall₂ r results (list.filter p) := by
  induction list generalizing first with
  | nil =>
    cases hrun
    exact ⟨[], (List.append_nil _).symm, .nil⟩
  | cons member rest ih =>
    rw [List.foldlM_cons, bind_eq_ok_iff] at hrun
    obtain ⟨next, hnext, hrest⟩ := hrun
    obtain ⟨results, hview, hresults⟩ := ih hrest
    -- The results of the rest come behind the one of this member, if it has one.
    rcases hstep first member next hnext with ⟨hp, result, hresult, happend⟩ | ⟨hp, hsame⟩
    · refine ⟨result :: results, ?_, ?_⟩
      · rw [hview, happend, List.append_assoc, List.singleton_append]
      · rw [List.filter_cons_of_pos hp]
        exact .cons hresult hresults
    · refine ⟨results, hsame ▸ hview, ?_⟩
      rw [List.filter_cons_of_neg (by simp [hp])]
      exact hresults

/-- Given one relation between the members of two lists, another one holds between them exactly if
the members of the second list have the property that makes the difference. -/
theorem forall₂_iff_forall_mem {r s : α → β → Prop} {p : β → Prop} {as : List α} {bs : List β}
    (h : List.Forall₂ r as bs) (hiff : ∀ a b, r a b → (s a b ↔ p b)) :
    List.Forall₂ s as bs ↔ ∀ b ∈ bs, p b := by
  induction h with
  | nil => exact ⟨fun _ => List.forall_mem_nil _, fun _ => .nil⟩
  | cons hfirst _ ih =>
    rw [List.forall₂_cons, List.forall_mem_cons, hiff _ _ hfirst, ih]

open Xml (Element)

/-- The elements of one tag that an element holds. -/
def Xml.Element.tagged (element : Element) (tag : String) : List Element :=
  element.elements.filter (·.tag == tag)

/-- A run over what an element holds that keeps one result for each element of a tag has these
results in order. -/
theorem Xml.Element.forall₂_tagged (view : β → List γ) {step : β → Element → Except ε β}
    {tag : String} {r : γ → Element → Prop}
    (hstep : ∀ state child next, step state child = .ok next →
      child.tag = tag ∧ (∃ result, r result child ∧ view next = view state ++ [result]) ∨
        child.tag ≠ tag ∧ view next = view state)
    {element : Element} {first last : β} (hfirst : view first = [])
    (hrun : element.elements.foldlM step first = .ok last) :
    List.Forall₂ r (view last) (element.tagged tag) := by
  have hpicked : ∀ state child next, step state child = .ok next →
      (child.tag == tag) = true ∧ (∃ result, r result child ∧ view next = view state ++ [result]) ∨
        (child.tag == tag) = false ∧ view next = view state := by
    simpa only [beq_iff_eq, beq_eq_false_iff_ne] using hstep
  obtain ⟨results, hview, hresults⟩ := forall₂_of_foldlM hpicked hrun
  rw [hview, hfirst, List.nil_append]
  exact hresults

end Runs

/-! ## Descriptions read with a view on texts -/

open Xml (Element)

/-- A line of code is what an element says, given the texts of elements. -/
def Template.IsReadWith (view : Element → String) (line : Template) (element : Element) : Prop :=
  Template.parse (view element) = .ok line

/-- A group of templates has a header for each `include` and a line for each `line` in it. -/
structure TemplateSet.IsReadWith (view : Element → String) (templates : TemplateSet)
    (element : Element) : Prop where
  /-- The headers are the texts of elements. -/
  includes : List.Forall₂ (fun header child => header = view child) templates.includes
    (element.tagged "include")
  /-- The lines are read from elements. -/
  lines : List.Forall₂ (Template.IsReadWith view) templates.lines (element.tagged "line")

/-- An interrupt has a line of its own for each `enable` and each `handler` in it. -/
structure Interrupt.IsReadWith (view : Element → String) (interrupt : Interrupt)
    (element : Element) : Prop where
  /-- The lines that enable the interrupt are read from elements. -/
  enable : List.Forall₂ (Template.IsReadWith view) interrupt.enable (element.tagged "enable")
  /-- The lines that handle the interrupt are read from elements. -/
  handler : List.Forall₂ (Template.IsReadWith view) interrupt.handler (element.tagged "handler")

/-- A peripheral has an interrupt for each `interrupt` and a group of templates for each `templates`
in it. -/
structure Descriptor.IsReadWith (view : Element → String) (descriptor : Descriptor)
    (element : Element) : Prop where
  /-- The interrupts are read from elements. -/
  interrupts : List.Forall₂ (Interrupt.IsReadWith view) descriptor.interrupts
    (element.tagged "interrupt")
  /-- The groups of templates are read from elements. -/
  templates : List.Forall₂ (TemplateSet.IsReadWith view) descriptor.templates
    (element.tagged "templates")

namespace Device

/-- A device has a peripheral for each `peripheral` in it. -/
def IsReadWith (view : Element → String) (device : Device) (root : Element) : Prop :=
  List.Forall₂ (Descriptor.IsReadWith view) device.peripherals (root.tagged "peripheral")

/-- The headers and lines of a group of templates. -/
def templateElements (element : Element) : List Element :=
  element.tagged "include" ++ element.tagged "line"

/-- The lines of an interrupt. -/
def interruptElements (element : Element) : List Element :=
  element.tagged "enable" ++ element.tagged "handler"

/-- The headers and lines of a peripheral. -/
def peripheralElements (element : Element) : List Element :=
  (element.tagged "interrupt").flatMap interruptElements ++
    (element.tagged "templates").flatMap templateElements

/-- The headers and lines of a device. -/
def codeElements (root : Element) : List Element :=
  (root.tagged "peripheral").flatMap peripheralElements

/-- All text inside an element, without the blanks around it. -/
def fullText (element : Element) : String := Text.trimmed element.characterData

end Device

/-! ## Two views on texts -/

section Views

variable {view : Element → String} (other : Element → String) {element : Element}

/-- A line tells one text from another one. -/
theorem Template.isReadWith_iff {line : Template} (h : line.IsReadWith view element) :
    line.IsReadWith other element ↔ view element = other element := by
  constructor
  · intro hother
    exact (source_of_parse h).symm.trans (source_of_parse hother)
  · intro heq
    unfold IsReadWith
    rw [← heq]
    exact h

theorem TemplateSet.isReadWith_iff {templates : TemplateSet}
    (h : templates.IsReadWith view element) :
    templates.IsReadWith other element ↔
      ∀ leaf ∈ Device.templateElements element, view leaf = other leaf := by
  have hincludes := forall₂_iff_forall_mem (s := fun header leaf => header = other leaf)
    (p := fun leaf => view leaf = other leaf) h.includes (fun _ _ hview => by rw [hview])
  have hlines := forall₂_iff_forall_mem h.lines fun _ _ => Template.isReadWith_iff other
  rw [Device.templateElements, List.forall_mem_append, ← hincludes, ← hlines]
  exact ⟨fun hother => ⟨hother.includes, hother.lines⟩, fun hboth => ⟨hboth.1, hboth.2⟩⟩

theorem Interrupt.isReadWith_iff {interrupt : Interrupt} (h : interrupt.IsReadWith view element) :
    interrupt.IsReadWith other element ↔
      ∀ leaf ∈ Device.interruptElements element, view leaf = other leaf := by
  have henable := forall₂_iff_forall_mem h.enable fun _ _ => Template.isReadWith_iff other
  have hhandler := forall₂_iff_forall_mem h.handler fun _ _ => Template.isReadWith_iff other
  rw [Device.interruptElements, List.forall_mem_append, ← henable, ← hhandler]
  exact ⟨fun hother => ⟨hother.enable, hother.handler⟩, fun hboth => ⟨hboth.1, hboth.2⟩⟩

theorem Descriptor.isReadWith_iff {descriptor : Descriptor}
    (h : descriptor.IsReadWith view element) :
    descriptor.IsReadWith other element ↔
      ∀ leaf ∈ Device.peripheralElements element, view leaf = other leaf := by
  have hinterrupts := forall₂_iff_forall_mem h.interrupts
    fun _ _ => Interrupt.isReadWith_iff other
  have htemplates := forall₂_iff_forall_mem h.templates
    fun _ _ => TemplateSet.isReadWith_iff other
  rw [Device.peripheralElements, List.forall_mem_append, List.forall_mem_flatMap,
    List.forall_mem_flatMap, ← hinterrupts, ← htemplates]
  exact ⟨fun hother => ⟨hother.interrupts, hother.templates⟩, fun hboth => ⟨hboth.1, hboth.2⟩⟩

/-- A device that is read with one view on texts is read with another one exactly if the two agree
on its headers and lines. -/
theorem Device.isReadWith_iff {device : Device} (h : device.IsReadWith view element) :
    device.IsReadWith other element ↔
      ∀ leaf ∈ codeElements element, view leaf = other leaf := by
  rw [codeElements, List.forall_mem_flatMap]
  exact forall₂_iff_forall_mem h fun _ _ => Descriptor.isReadWith_iff other

end Views

/-! ## What is read from an element -/

namespace Device

/-- A child of a group of templates is a header or a line. -/
theorem takeTemplateChild_cases {element child : Element} {lines next : Lines}
    (h : takeTemplateChild element lines child = .ok next) :
    child.tag = "include" ∧ next = { lines with texts := lines.texts ++ [textOf child] } ∨
      child.tag = "line" ∧ ∃ line : Template, line.IsReadWith textOf child ∧
        next = { lines with first := lines.first ++ [line] } := by
  unfold takeTemplateChild at h
  split at h
  · next htag =>
    cases h
    exact .inl ⟨htag, rfl⟩
  · next htag =>
    obtain ⟨line, hline, ⟨⟩⟩ := bind_eq_ok_iff.mp h
    exact .inr ⟨htag, line, mapError_eq_ok_iff.mp hline, rfl⟩
  · cases h

/-- A child of an interrupt describes, enables or handles it. -/
theorem takeInterruptChild_cases {element child : Element} {lines next : Lines}
    (h : takeInterruptChild element lines child = .ok next) :
    child.tag = "description" ∧ next = { lines with texts := [textOf child] } ∨
      (child.tag = "enable" ∧ ∃ line : Template, line.IsReadWith textOf child ∧
        next = { lines with first := lines.first ++ [line] }) ∨
      child.tag = "handler" ∧ ∃ line : Template, line.IsReadWith textOf child ∧
        next = { lines with second := lines.second ++ [line] } := by
  unfold takeInterruptChild at h
  split at h
  · next htag =>
    cases h
    exact .inl ⟨htag, rfl⟩
  · next htag =>
    obtain ⟨line, hline, ⟨⟩⟩ := bind_eq_ok_iff.mp h
    exact .inr (.inl ⟨htag, line, mapError_eq_ok_iff.mp hline, rfl⟩)
  · next htag =>
    obtain ⟨line, hline, ⟨⟩⟩ := bind_eq_ok_iff.mp h
    exact .inr (.inr ⟨htag, line, mapError_eq_ok_iff.mp hline, rfl⟩)
  · cases h

/-- A child of a peripheral is an interrupt, a group of templates or something else. -/
theorem takePart_cases {element child : Element} {parts next : Parts}
    (h : takePart element parts child = .ok next) :
    (child.tag = "interrupt" ∧ ∃ interrupt, readInterrupt child = .ok interrupt ∧
        next = { parts with interrupts := parts.interrupts ++ [interrupt] }) ∨
      (child.tag = "templates" ∧ ∃ templates, readTemplateSet child = .ok templates ∧
        next = { parts with templates := parts.templates ++ [templates] }) ∨
      (child.tag ≠ "interrupt" ∧ child.tag ≠ "templates") ∧
        next.interrupts = parts.interrupts ∧ next.templates = parts.templates := by
  unfold takePart at h
  split at h
  case h_6 htag =>
    obtain ⟨interrupt, hinterrupt, ⟨⟩⟩ := bind_eq_ok_iff.mp h
    exact .inl ⟨htag, interrupt, hinterrupt, rfl⟩
  case h_7 htag =>
    obtain ⟨templates, htemplates, ⟨⟩⟩ := bind_eq_ok_iff.mp h
    exact .inr (.inl ⟨htag, templates, htemplates, rfl⟩)
  case h_1 htag =>
    simp only [bind_eq_ok_iff] at h
    obtain ⟨_, -, _, -, ⟨⟩⟩ := h
    exact .inr (.inr ⟨by simp [htag], rfl, rfl⟩)
  case h_2 htag =>
    obtain ⟨_, -, ⟨⟩⟩ := bind_eq_ok_iff.mp h
    exact .inr (.inr ⟨by simp [htag], rfl, rfl⟩)
  case h_3 htag =>
    simp only [bind_eq_ok_iff] at h
    obtain ⟨_, -, _, -, ⟨⟩⟩ := h
    exact .inr (.inr ⟨by simp [htag], rfl, rfl⟩)
  case h_4 htag =>
    simp only [bind_eq_ok_iff] at h
    obtain ⟨_, -, _, -, ⟨⟩⟩ := h
    exact .inr (.inr ⟨by simp [htag], rfl, rfl⟩)
  case h_5 htag =>
    obtain ⟨_, -, ⟨⟩⟩ := bind_eq_ok_iff.mp h
    exact .inr (.inr ⟨by simp [htag], rfl, rfl⟩)
  case h_8 => cases h

/-- A child of a device is a peripheral or a group of rules. -/
theorem takeDeviceChild_cases {element child : Element} {device next : Device}
    (h : takeDeviceChild element device child = .ok next) :
    (child.tag = "peripheral" ∧ ∃ descriptor, readPeripheral child = .ok descriptor ∧
        next = { device with peripherals := device.peripherals ++ [descriptor] }) ∨
      child.tag = "conflicts" ∧ next.peripherals = device.peripherals := by
  unfold takeDeviceChild at h
  split at h
  · next htag =>
    obtain ⟨descriptor, hdescriptor, hnext⟩ := bind_eq_ok_iff.mp h
    split at hnext
    · cases hnext
    · cases hnext
      exact .inl ⟨htag, descriptor, hdescriptor, rfl⟩
  · next htag =>
    obtain ⟨_, -, ⟨⟩⟩ := bind_eq_ok_iff.mp h
    exact .inr ⟨htag, rfl⟩
  · cases h

/-- A group of templates is read with the texts at the start of elements. -/
theorem isReadWith_of_readTemplateSet {element : Element} {templates : TemplateSet}
    (h : readTemplateSet element = .ok templates) : templates.IsReadWith textOf element := by
  unfold readTemplateSet at h
  simp only [bind_eq_ok_iff] at h
  obtain ⟨lines, hrun, _, -, _, -, _, -, ⟨⟩⟩ := h
  constructor
  · refine Element.forall₂_tagged Lines.texts (fun lines child next hnext => ?_) rfl hrun
    rcases takeTemplateChild_cases hnext with ⟨htag, rfl⟩ | ⟨htag, line, hline, rfl⟩
    · exact .inl ⟨htag, _, rfl, rfl⟩
    · exact .inr ⟨by simp [htag], rfl⟩
  · refine Element.forall₂_tagged Lines.first (fun lines child next hnext => ?_) rfl hrun
    rcases takeTemplateChild_cases hnext with ⟨htag, rfl⟩ | ⟨htag, line, hline, rfl⟩
    · exact .inr ⟨by simp [htag], rfl⟩
    · exact .inl ⟨htag, line, hline, rfl⟩

/-- An interrupt is read with the texts at the start of elements. -/
theorem isReadWith_of_readInterrupt {element : Element} {interrupt : Interrupt}
    (h : readInterrupt element = .ok interrupt) : interrupt.IsReadWith textOf element := by
  unfold readInterrupt at h
  simp only [bind_eq_ok_iff] at h
  obtain ⟨_, -, lines, hrun, _, -, _, -, _, -, ⟨⟩⟩ := h
  constructor
  · refine Element.forall₂_tagged Lines.first (fun lines child next hnext => ?_) rfl hrun
    rcases takeInterruptChild_cases hnext with
      ⟨htag, rfl⟩ | ⟨htag, line, hline, rfl⟩ | ⟨htag, line, hline, rfl⟩
    · exact .inr ⟨by simp [htag], rfl⟩
    · exact .inl ⟨htag, line, hline, rfl⟩
    · exact .inr ⟨by simp [htag], rfl⟩
  · refine Element.forall₂_tagged Lines.second (fun lines child next hnext => ?_) rfl hrun
    rcases takeInterruptChild_cases hnext with
      ⟨htag, rfl⟩ | ⟨htag, line, hline, rfl⟩ | ⟨htag, line, hline, rfl⟩
    · exact .inr ⟨by simp [htag], rfl⟩
    · exact .inr ⟨by simp [htag], rfl⟩
    · exact .inl ⟨htag, line, hline, rfl⟩

/-- A peripheral is read with the texts at the start of elements. -/
theorem isReadWith_of_readPeripheral {element : Element} {descriptor : Descriptor}
    (h : readPeripheral element = .ok descriptor) : descriptor.IsReadWith textOf element := by
  unfold readPeripheral at h
  simp only [bind_eq_ok_iff] at h
  obtain ⟨_, -, _, -, _, -, parts, hrun, _, -, h⟩ := h
  split at h
  · cases h
  · cases h
    constructor
    · refine Element.forall₂_tagged Parts.interrupts (fun parts child next hnext => ?_) rfl hrun
      rcases takePart_cases hnext with
        ⟨htag, interrupt, hread, rfl⟩ | ⟨htag, templates, hread, rfl⟩ | ⟨htag, hsame, -⟩
      · exact .inl ⟨htag, interrupt, isReadWith_of_readInterrupt hread, rfl⟩
      · exact .inr ⟨by simp [htag], rfl⟩
      · exact .inr ⟨htag.1, hsame⟩
    · refine Element.forall₂_tagged Parts.templates (fun parts child next hnext => ?_) rfl hrun
      rcases takePart_cases hnext with
        ⟨htag, interrupt, hread, rfl⟩ | ⟨htag, templates, hread, rfl⟩ | ⟨htag, -, hsame⟩
      · exact .inr ⟨by simp [htag], rfl⟩
      · exact .inl ⟨htag, templates, isReadWith_of_readTemplateSet hread, rfl⟩
      · exact .inr ⟨htag.2, hsame⟩

/-- A device is read with the texts at the start of elements. -/
theorem isReadWith_of_ofElement {root : Element} {device : Device}
    (h : ofElement root = .ok device) : device.IsReadWith textOf root := by
  unfold ofElement at h
  split at h
  · cases h
  · simp only [bind_eq_ok_iff] at h
    obtain ⟨read, hrun, _, -, _, -, ⟨⟩⟩ := h
    show List.Forall₂ _ read.peripherals _
    refine Element.forall₂_tagged Device.peripherals (fun device child next hnext => ?_) rfl hrun
    rcases takeDeviceChild_cases hnext with ⟨htag, descriptor, hread, rfl⟩ | ⟨htag, hsame⟩
    · exact .inl ⟨htag, descriptor, isReadWith_of_readPeripheral hread, rfl⟩
    · exact .inr ⟨by simp [htag], hsame⟩

/-! ## All text of an element -/

/-- The text that is read from an element is all of its text exactly if only blanks stand behind
the text at its start. -/
theorem textOf_eq_fullText_iff {element : Element} : textOf element = fullText element ↔
    ∀ c ∈ (Xml.characterDataOf element.laterChildren).toList, Text.isBlank c = true := by
  rw [textOf, fullText, Text.trimmed, Text.trimmed, String.ofList_inj, element.characterData_eq,
    String.toList_append, Text.trim_append_eq_iff]

/-- Inside of the elements of one tag texts are merged if they are around them. -/
theorem areMerged_tagged {element : Element} (h : Xml.AreMerged element.children) (tag : String) :
    ∀ child ∈ element.tagged tag, Xml.AreMerged child.children := by
  intro child hchild
  exact Element.areMerged_elements h child (List.mem_filter.mp hchild).1

/-- In the headers and lines of a document no two texts stand side by side. -/
theorem areMerged_codeElements {root : Element} (h : Xml.AreMerged root.children) :
    ∀ leaf ∈ codeElements root, Xml.AreMerged leaf.children := by
  rw [codeElements, List.forall_mem_flatMap]
  intro peripheral hperipheral
  have hchildren := areMerged_tagged (areMerged_tagged h _ peripheral hperipheral)
  rw [peripheralElements, List.forall_mem_append, List.forall_mem_flatMap, List.forall_mem_flatMap]
  refine ⟨fun interrupt hinterrupt => ?_, fun templates htemplates => ?_⟩
  · have hleaves := areMerged_tagged (hchildren _ interrupt hinterrupt)
    exact List.forall_mem_append.mpr ⟨hleaves _, hleaves _⟩
  · have hleaves := areMerged_tagged (hchildren _ templates htemplates)
    exact List.forall_mem_append.mpr ⟨hleaves _, hleaves _⟩

/-- A device that is read has a header or a line for every element that is meant to give one, and
each is the text at the start of the element. All texts are read in full exactly if there are
only blanks behind these starts; an element of texts, character data sections and references only
is read in full. -/
theorem exists_isReadWith_of_parse {text : String} {device : Device}
    (h : parse text = .ok device) :
    ∃ root, Xml.parse text = .ok root ∧ device.IsReadWith textOf root ∧
      (device.IsReadWith fullText root ↔ ∀ leaf ∈ codeElements root,
        ∀ c ∈ (Xml.characterDataOf leaf.laterChildren).toList, Text.isBlank c = true) ∧
      ∀ leaf ∈ codeElements root, (∀ child ∈ leaf.children, child.isText = true) →
        textOf leaf = fullText leaf := by
  obtain ⟨root, hroot, hdevice⟩ := bind_eq_ok_iff.mp h
  have hxml : Xml.parse text = .ok root := mapError_eq_ok_iff.mp hroot
  have hread := isReadWith_of_ofElement hdevice
  have hmerged := areMerged_codeElements (Xml.areMerged_of_parse hxml)
  refine ⟨root, hxml, hread, ?_, fun leaf hleaf htexts => ?_⟩
  · rw [isReadWith_iff fullText hread]
    exact forall₂_congr fun _ _ => textOf_eq_fullText_iff
  · -- Texts that touch were merged when the document was read, so nothing is behind the first one.
    rw [textOf_eq_fullText_iff, Element.laterChildren_eq_nil (hmerged leaf hleaf) htexts]
    exact List.forall_mem_nil _

/-! ## A small device with lines of all kinds -/

/-- A description of a watchdog that is set up by the lines given. -/
def linesText (lines : String) : String :=
  "<device name='m'><peripheral id='wdt' kind='global'>" ++
  "<templates scope='peripheral' key='init'>" ++ lines ++ "</templates></peripheral></device>"

/-- A watchdog that is set up by the lines given. -/
def linesDevice (lines : List Template) : Device :=
  let templates : TemplateSet := ⟨.peripheral, "init", none, none, [], lines⟩
  ⟨"m", none, [{ watchdogDescriptor with interrupts := [], templates := [templates] }], []⟩

/-- Lines of texts, references and character data sections, one with a comment behind them. -/
def wholeText : String :=
  linesText "<line>A = 1 &lt;&lt;<![CDATA[ B;]]></line><line>C;<!-- c --> </line>"

/-- The device of these lines. -/
def wholeDevice : Device :=
  linesDevice [.ofSegments [.literal "A = 1 << B;"], .ofSegments [.literal "C;"]]

theorem isReadWith_wholeDevice : ∃ root, Xml.parse wholeText = .ok root ∧
    (codeElements root).map fullText = ["A = 1 << B;", "C;"] ∧
      wholeDevice.IsReadWith fullText root := by
  have hrun : (Xml.parse wholeText).map (fun root =>
      let leaves := codeElements root
      (ofElement root, leaves.map fullText, leaves.all fun leaf =>
        (Xml.characterDataOf leaf.laterChildren).toList.all Text.isBlank)) =
          .ok (.ok wholeDevice, ["A = 1 << B;", "C;"], true) := by decide +kernel
  obtain ⟨root, hroot, hall⟩ := map_eq_ok_iff.mp hrun
  obtain ⟨hdevice, hall⟩ := Prod.mk.inj hall
  obtain ⟨htexts, hblank⟩ := Prod.mk.inj hall
  have hparse : parse wholeText = .ok wholeDevice :=
    bind_eq_ok_iff.mpr ⟨root, mapError_eq_ok_iff.mpr hroot, hdevice⟩
  obtain ⟨found, hfound, -, hiff, -⟩ := exists_isReadWith_of_parse hparse
  obtain rfl := Except.ok.inj (hroot.symm.trans hfound)
  refine ⟨root, hroot, htexts, hiff.mpr fun leaf hleaf => ?_⟩
  exact List.all_eq_true.mp (List.all_eq_true.mp hblank leaf hleaf)

/-- Lines with a comment before a text, a comment in a text and an element in a text. -/
def brokenText : String :=
  linesText "<line><!-- c -->A;</line><line>A<!-- c -->B;</line><line>A<b/>B;</line>"

/-- The device of these lines. -/
def brokenDevice : Device :=
  linesDevice [.ofSegments [], .ofSegments [.literal "A"], .ofSegments [.literal "A"]]

/-- What stands behind a comment or an element in a line is left out, and so is a text that begins
behind one. The description is accepted all the same. -/
theorem texts_left_out : parse brokenText = .ok brokenDevice ∧
    ∃ root, Xml.parse brokenText = .ok root ∧
      (codeElements root).map fullText = ["A;", "AB;", "AB;"] ∧
      (codeElements root).map (fun leaf => leaf.elements.length) = [0, 0, 1] ∧
      ¬brokenDevice.IsReadWith fullText root := by
  have hrun : (Xml.parse brokenText).map (fun root =>
      let leaves := codeElements root
      (ofElement root, leaves.map fullText, leaves.map fun leaf => leaf.elements.length,
        leaves.map textOf)) =
          .ok (.ok brokenDevice, ["A;", "AB;", "AB;"], [0, 0, 1], ["", "A", "A"]) := by
    decide +kernel
  obtain ⟨root, hroot, hall⟩ := map_eq_ok_iff.mp hrun
  obtain ⟨hdevice, hall⟩ := Prod.mk.inj hall
  obtain ⟨hfull, hall⟩ := Prod.mk.inj hall
  obtain ⟨hcount, htexts⟩ := Prod.mk.inj hall
  have hparse : parse brokenText = .ok brokenDevice :=
    bind_eq_ok_iff.mpr ⟨root, mapError_eq_ok_iff.mpr hroot, hdevice⟩
  refine ⟨hparse, root, hroot, hfull, hcount, fun hread => ?_⟩
  have hsame := (isReadWith_iff fullText (isReadWith_of_ofElement hdevice)).mp hread
  have hlists := (htexts.symm.trans (List.map_congr_left hsame)).trans hfull
  exact absurd hlists (by decide)

end Device

end AvrSetup
