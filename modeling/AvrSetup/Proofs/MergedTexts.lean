import AvrSetup.Proofs.Success
import AvrSetup.Xml.Document
import Mathlib.Data.List.Chain

/-!
# Texts that touch are one

A document gives the text of an element in several tokens where character data sections stand in
it. They are put together while the tree is built, so in the tree of a document no two texts stand
side by side (`Xml.areMerged_of_parse`). An element that holds texts only thus holds one, or none,
and all of its character data is at its start (`Xml.Element.laterChildren_eq_nil`).
-/

namespace AvrSetup.Xml

/-! ## Character data -/

mutual

/-- All character data inside a part of a document, that inside of elements included. -/
def Node.characterData : Node → String
  | .element _ _ _ children => characterDataOf children
  | .text content => content
  | .comment _ => ""
  | .instruction _ _ => ""

/-- All character data inside parts of a document, in order. -/
def characterDataOf : List Node → String
  | [] => ""
  | node :: rest => node.characterData ++ characterDataOf rest

end

namespace Element

/-- All character data inside an element. -/
def characterData (element : Element) : String := characterDataOf element.children

/-- What an element holds behind the text at its start. -/
def laterChildren (element : Element) : List Node :=
  match element.children with
  | .text _ :: rest => rest
  | children => children

/-- The character data of an element is the text at its start, and the data behind that. -/
theorem characterData_eq (element : Element) :
    element.characterData = element.leadingText ++ characterDataOf element.laterChildren := by
  unfold characterData leadingText laterChildren
  cases element.children with
  | nil => exact String.empty_append.symm
  | cons first rest => cases first with
    | text content => rw [characterDataOf, Node.characterData]
    | element name attributes span children => exact String.empty_append.symm
    | comment content => exact String.empty_append.symm
    | instruction target content => exact String.empty_append.symm

end Element

/-! ## Merged texts -/

/-- Whether a part of a document is a text. -/
def Node.isText : Node → Bool
  | text _ => true
  | _ => false

theorem Node.isText_iff {node : Node} : node.isText = true ↔ ∃ content, node = .text content := by
  cases node with
  | text content => exact ⟨fun _ => ⟨content, rfl⟩, fun _ => rfl⟩
  | element name attributes span children => exact ⟨nofun, nofun⟩
  | comment content => exact ⟨nofun, nofun⟩
  | instruction target content => exact ⟨nofun, nofun⟩

/-- At most one of two parts is a text. -/
def AreApart (left right : Node) : Prop := ¬(left.isText = true ∧ right.isText = true)

/-- No two texts stand side by side inside a part of a document. -/
inductive Node.IsMerged : Node → Prop
  /-- No two texts stand side by side in an element, nor in what it holds. -/
  | element {name : Name} {attributes : List Attribute} {span : Span} {children : List Node}
    (hapart : children.IsChain AreApart) (hchildren : ∀ child ∈ children, child.IsMerged) :
    (Node.element name attributes span children).IsMerged
  /-- A text is one. -/
  | text (content : String) : (Node.text content).IsMerged
  /-- A comment holds no texts. -/
  | comment (content : String) : (Node.comment content).IsMerged
  /-- Neither does a processing instruction. -/
  | instruction (target content : String) : (Node.instruction target content).IsMerged

/-- No two texts stand side by side in a list of parts, nor inside of them. -/
structure AreMerged (nodes : List Node) : Prop where
  /-- No two neighbours are texts. -/
  apart : nodes.IsChain AreApart
  /-- The parts have none inside. -/
  isMerged : ∀ node ∈ nodes, node.IsMerged

theorem areApart_comm {left right : Node} : AreApart left right ↔ AreApart right left :=
  not_congr and_comm

theorem areMerged_nil : AreMerged [] := ⟨.nil, List.forall_mem_nil _⟩

/-- The order of the parts does not matter. -/
theorem AreMerged.reverse {nodes : List Node} (h : AreMerged nodes) : AreMerged nodes.reverse where
  apart := by
    rw [List.isChain_reverse]
    exact h.apart.imp fun _ _ => areApart_comm.mp
  isMerged node hnode := h.isMerged node (List.mem_reverse.mp hnode)

/-- A part that is put behind others leaves texts merged. -/
theorem AreMerged.pushNode {before : List Node} {node : Node} (hbefore : AreMerged before)
    (hnode : node.IsMerged) : AreMerged (pushNode node before) := by
  unfold Xml.pushNode
  split
  · next content earlier rest =>
    obtain ⟨hhead, hrest⟩ := List.isChain_cons.mp hbefore.apart
    exact ⟨List.isChain_cons.mpr ⟨hhead, hrest⟩,
      List.forall_mem_cons.mpr ⟨.text _, (List.forall_mem_cons.mp hbefore.isMerged).2⟩⟩
  · next hother =>
    refine ⟨List.isChain_cons.mpr ⟨?_, hbefore.apart⟩,
      List.forall_mem_cons.mpr ⟨hnode, hbefore.isMerged⟩⟩
    -- A text behind a text is the case above.
    rintro last hlast ⟨htext, hlastText⟩
    obtain ⟨content, rfl⟩ := Node.isText_iff.mp htext
    obtain ⟨earlier, rfl⟩ := Node.isText_iff.mp hlastText
    obtain ⟨rest, rfl⟩ := List.head?_eq_some_iff.mp hlast
    exact hother content earlier rest rfl rfl

/-- What a merged element holds is merged. -/
theorem AreMerged.of_isMerged {name : Name} {attributes : List Attribute} {span : Span}
    {children : List Node} (h : (Node.element name attributes span children).IsMerged) :
    AreMerged children := by
  cases h with
  | element hapart hchildren => exact ⟨hapart, hchildren⟩

namespace Builder

/-- No two texts stand side by side in what was put together so far. -/
structure IsMerged (builder : Builder) : Prop where
  /-- The elements still open hold none. -/
  frames : ∀ frame ∈ builder.frames, AreMerged frame.children
  /-- The element that holds everything holds none. -/
  root : ∀ root ∈ builder.root, AreMerged root.children

/-- Putting a part into the innermost open element leaves texts merged. -/
theorem areMerged_push {node : Node} {frames : List OpenElement} (hnode : node.IsMerged)
    (hframes : ∀ frame ∈ frames, AreMerged frame.children) :
    ∀ frame ∈ push node frames, AreMerged frame.children := by
  cases frames with
  | nil => exact hframes
  | cons first rest =>
    obtain ⟨hfirst, hrest⟩ := List.forall_mem_cons.mp hframes
    exact List.forall_mem_cons.mpr ⟨hfirst.pushNode hnode, hrest⟩

theorem IsMerged.push {builder : Builder} {node : Node} (h : builder.IsMerged)
    (hnode : node.IsMerged) : IsMerged { builder with frames := push node builder.frames } :=
  ⟨areMerged_push hnode h.frames, h.root⟩

/-- Closing an element leaves texts merged. -/
theorem IsMerged.close {builder : Builder} {frame : OpenElement} (h : builder.IsMerged)
    (hframe : AreMerged frame.children) (behind : Position) :
    (builder.close frame behind).IsMerged := by
  have hchildren := hframe.reverse
  unfold Builder.close
  split
  · refine ⟨List.forall_mem_nil _, fun root hroot => ?_⟩
    cases hroot
    exact hchildren
  · exact ⟨areMerged_push (.element hchildren.apart hchildren.isMerged) h.frames, h.root⟩

/-- An element that was just opened holds nothing. -/
theorem children_of_openElement {builder : Builder} {name : RawName}
    {attributes : List (RawName × List Char)} {first : Position} {frame : OpenElement}
    (h : builder.openElement name attributes first = .ok frame) : frame.children = [] := by
  unfold openElement at h
  split at h
  · cases h
  · simp only [bind_eq_ok_iff] at h
    obtain ⟨_, -, _, -, _, -, ⟨⟩⟩ := h
    rfl

/-- Taking a token leaves texts merged. -/
theorem IsMerged.step {builder next : Builder} {lexeme : Lexeme} (h : builder.IsMerged)
    (hnext : builder.step lexeme = .ok next) : next.IsMerged := by
  unfold Builder.step at hnext
  split at hnext
  case h_1 =>
    cases hnext
    exact h.push (.instruction _ _)
  case h_2 =>
    cases hnext
    exact h.push (.comment _)
  case h_3 =>
    split at hnext
    · cases hnext
    · cases hnext
      exact h.push (.text _)
  case h_4 =>
    split at hnext
    · split at hnext
      · cases hnext
        exact h
      · cases hnext
    · obtain ⟨content, -, hnext⟩ := bind_eq_ok_iff.mp hnext
      cases hnext
      exact h.push (.text _)
  case h_5 name attributes closed _ =>
    obtain ⟨frame, hframe, hnext⟩ := bind_eq_ok_iff.mp hnext
    have hempty : AreMerged frame.children := children_of_openElement hframe ▸ areMerged_nil
    split at hnext
    · cases hnext
      exact h.close hempty _
    · cases hnext
      exact ⟨List.forall_mem_cons.mpr ⟨hempty, h.frames⟩, h.root⟩
  case h_6 =>
    split at hnext
    · cases hnext
    · next frame frames hframes =>
      obtain ⟨hframe, hrest⟩ := List.forall_mem_cons.mp (hframes ▸ h.frames)
      split at hnext
      · cases hnext
      · cases hnext
        have hbuilder : IsMerged { builder with frames } := ⟨hrest, h.root⟩
        exact hbuilder.close hframe _

end Builder

/-- In a document no two texts stand side by side. -/
theorem areMerged_of_parse {text : String} {root : Element} (h : parse text = .ok root) :
    AreMerged root.children := by
  unfold parse at h
  split at h
  · cases h
  · simp only [bind_eq_ok_iff] at h
    obtain ⟨_, _, _, _, builder, hrun, hfinish⟩ := h
    have hbuilder : builder.IsMerged :=
      foldlM_invariant (fun _ _ _ => Builder.IsMerged.step)
        ⟨List.forall_mem_nil _, fun _ hroot => by cases hroot⟩ hrun
    unfold Builder.finish at hfinish
    split at hfinish
    · next hroot =>
      cases hfinish
      exact hbuilder.root root hroot
    · cases hfinish

/-! ## Elements of texts only -/

namespace Element

/-- What the elements of an element with merged texts hold is merged. -/
theorem areMerged_elements {element : Element} (h : AreMerged element.children) :
    ∀ child ∈ element.elements, AreMerged child.children := by
  intro child hchild
  obtain ⟨node, hnode, heq⟩ := List.mem_filterMap.mp hchild
  cases node with
  | element name attributes span children =>
    cases heq
    exact .of_isMerged (h.isMerged _ hnode)
  | text content => cases heq
  | comment content => cases heq
  | instruction target content => cases heq

/-- An element of texts only holds one at most, so that nothing stands behind it. -/
theorem laterChildren_eq_nil {element : Element} (h : AreMerged element.children)
    (htexts : ∀ child ∈ element.children, child.isText = true) : element.laterChildren = [] := by
  unfold laterChildren
  split
  · next content rest hchildren =>
    cases rest with
    | nil => rfl
    | cons second rest =>
      rw [hchildren] at h htexts
      have hapart := (List.isChain_cons_cons.mp h.apart).1
      exact absurd ⟨rfl, htexts second (by simp)⟩ hapart
  · next hother =>
    cases hchildren : element.children with
    | nil => rfl
    | cons first rest =>
      rw [hchildren] at htexts
      obtain ⟨content, rfl⟩ := Node.isText_iff.mp (htexts first List.mem_cons_self)
      exact absurd hchildren (hother content rest)

end Element

end AvrSetup.Xml
