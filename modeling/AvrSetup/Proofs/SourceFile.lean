import AvrSetup.Code.Files
import AvrSetup.Proofs.Pieces
import Mathlib.Data.List.Basic
import Mathlib.Data.List.Count

/-!
# What a source file tells

A source file is a list of lines that stand between braces, under prototypes or labels. The
bodies of routines and handlers are any texts of one line, such as braces, prototypes or nothing
at all. They are indented, though, and so none of them can be mistaken for the brace that ends
its body. This file shows that the text of a source file tells what it was made from
(`Artifact.outline`), provided that nothing in it has a line feed
(`Artifact.source_eq_iff_outline_eq`).
-/

namespace AvrSetup

/-! ## Lines of a text -/

/-- A text that is one line. -/
def IsLine (text : String) : Prop := '\n' ∉ text.toList

instance (text : String) : Decidable (IsLine text) := inferInstanceAs (Decidable (_ ∉ _))

/-- Two texts stand on one line if each of them does. -/
theorem isLine_append {text behind : String} :
    IsLine (text ++ behind) ↔ IsLine text ∧ IsLine behind := by
  rw [IsLine, String.toList_append, List.mem_append, not_or]
  rfl

/-- A text is split at its line feeds into the lines that it consists of. -/
theorem splitOn_unlines {lines : List String} (h : ∀ line ∈ lines, IsLine line) :
    (unlines lines).toList.splitOn '\n' = lines.map String.toList ++ [[]] := by
  induction lines with
  | nil => rfl
  | cons line lines ih =>
    obtain ⟨hline, hlines⟩ := List.forall_mem_cons.mp h
    have htext : (unlines (line :: lines)).toList =
        line.toList ++ '\n' :: (unlines lines).toList := by
      simp [unlines, String.toList_append]
    rw [htext, List.splitOn_append_cons_self, List.splitOn_eq_singleton hline, ih hlines]
    rfl

/-- A text consists of one list of lines only. -/
theorem eq_of_unlines_eq {lines others : List String} (hlines : ∀ line ∈ lines, IsLine line)
    (hothers : ∀ line ∈ others, IsLine line) (h : unlines lines = unlines others) :
    lines = others := by
  have hsplit := splitOn_unlines hlines
  rw [h, splitOn_unlines hothers] at hsplit
  exact (List.map_injective_iff.mpr fun _ _ => String.toList_injective)
    (List.append_cancel_right hsplit).symm

/-! ## Blocks -/

/-- The lines that begin and end a block. -/
def braces : List String := ["\x7b", "\x7d"]

/-- A line of two or more characters neither begins nor ends a block. -/
theorem append_notMem_braces {text : String} (h : 2 ≤ text.length) (behind : String) :
    text ++ behind ∉ braces := by
  have hlong : 2 ≤ (text ++ behind).length := by
    rw [String.length_append]
    omega
  have hshort : ∀ brace ∈ braces, ¬2 ≤ brace.length := by decide
  exact fun hmem => hshort _ hmem hlong

/-- An indented line does not end a block. -/
theorem indent_ne_closing (line : String) : "    " ++ line ≠ "\x7d" :=
  fun h => append_notMem_braces (by decide) line (List.mem_pair.mpr (Or.inr h))

/-- A block begins once and ends once, whatever its lines are. -/
theorem count_block {brace : String} (hbrace : brace ∈ braces) (lines : List String) :
    (block lines).count brace = 1 := by
  have hlines : (lines.map ("    " ++ ·)).count brace = 0 := by
    rw [List.count_eq_zero]
    intro hmem
    obtain ⟨line, -, rfl⟩ := List.mem_map.mp hmem
    exact append_notMem_braces (by decide) line hbrace
  rw [block, List.count_append, List.count_append, hlines]
  rcases List.mem_pair.mp hbrace with rfl | rfl <;> decide

/-- Where a block ends can be told from its lines. -/
theorem block_append_inj {lines others rest tail : List String}
    (h : block lines ++ rest = block others ++ tail) : lines = others ∧ rest = tail := by
  simp only [block, List.cons_append, List.nil_append, List.append_assoc, List.cons_eq_cons,
    true_and] at h
  induction lines generalizing others with
  | nil => cases others with
    | nil => exact ⟨rfl, (List.cons.inj h).2⟩
    | cons other others => exact absurd (List.cons.inj h).1.symm (indent_ne_closing other)
  | cons line lines ih => cases others with
    | nil => exact absurd (List.cons.inj h).1 (indent_ne_closing line)
    | cons other others =>
      obtain ⟨hline, hlines⟩ := List.cons.inj h
      obtain ⟨hsame, hrest⟩ := ih hlines
      exact ⟨congrArg₂ List.cons ((String.append_right_inj _).mp hline) hsame, hrest⟩

/-- A block of lines is written in lines. -/
theorem isLine_block {lines : List String} (h : ∀ line ∈ lines, IsLine line) :
    ∀ line ∈ block lines, IsLine line := by
  refine List.forall_mem_append.mpr ⟨List.forall_mem_append.mpr ⟨?_, ?_⟩, ?_⟩
  · exact List.forall_mem_singleton.mpr (by decide)
  · refine List.forall_mem_map.mpr fun line hline => isLine_append.mpr ⟨by decide, h line hline⟩
  · exact List.forall_mem_singleton.mpr (by decide)

/-- A text occurs once for each member of a list if each of their lines have it once. -/
theorem count_flatMap_of_one {α : Type} {list : List α} {f : α → List String} {text : String}
    (h : ∀ member ∈ list, (f member).count text = 1) :
    (list.flatMap f).count text = list.length := by
  induction list with
  | nil => rfl
  | cons member list ih =>
    obtain ⟨hmember, hlist⟩ := List.forall_mem_cons.mp h
    rw [List.flatMap_cons, List.count_append, hmember, ih hlist, List.length_cons, Nat.add_comm]

/-! ## Routines -/

namespace Routine

variable {routine other : Routine} {rest tail : List String}

/-- The name, the parameters and the lines of a routine have no line feeds. -/
structure IsLined (routine : Routine) : Prop where
  /-- The name is one line. -/
  name : IsLine routine.name
  /-- The parameter list is one line. -/
  parameterList : IsLine routine.parameterList
  /-- So is each line of the body. -/
  lines : ∀ line ∈ routine.lines, IsLine line

instance (routine : Routine) : Decidable routine.IsLined :=
  decidable_of_iff
    (IsLine routine.name ∧ IsLine routine.parameterList ∧ ∀ line ∈ routine.lines, IsLine line)
    ⟨fun ⟨hname, hparameters, hlines⟩ => ⟨hname, hparameters, hlines⟩,
      fun ⟨hname, hparameters, hlines⟩ => ⟨hname, hparameters, hlines⟩⟩

/-- A routine is written in lines. -/
theorem IsLined.definition (h : routine.IsLined) : ∀ line ∈ routine.definition, IsLine line := by
  have hprototype : IsLine routine.prototype := by
    simp only [prototype, isLine_append, h.name, h.parameterList, and_true]
    decide
  refine List.forall_mem_append.mpr ⟨?_, isLine_block h.lines⟩
  exact List.forall_mem_cons.mpr ⟨by decide, List.forall_mem_singleton.mpr hprototype⟩

/-- The definition of a routine has one block. -/
theorem count_definition {brace : String} (hbrace : brace ∈ braces) (routine : Routine) :
    routine.definition.count brace = 1 := by
  have hhead : brace ∉ ["", routine.prototype] := by
    intro hmem
    rcases List.mem_pair.mp hmem with rfl | rfl
    · exact absurd hbrace (by decide)
    · simp only [prototype, String.append_assoc] at hbrace
      exact append_notMem_braces (by decide) _ hbrace
  rw [definition, List.count_append, List.count_eq_zero.mpr hhead, count_block hbrace]

/-- A routine that is written first tells its prototype and its body. -/
theorem definition_append_inj (h : routine.definition ++ rest = other.definition ++ tail) :
    routine.prototype = other.prototype ∧ routine.lines = other.lines ∧ rest = tail := by
  simp only [definition, List.cons_append, List.nil_append, List.cons_eq_cons, true_and] at h
  obtain ⟨hprototype, hblock⟩ := h
  exact ⟨hprototype, block_append_inj hblock⟩

end Routine

/-! ## Handlers -/

namespace Handler

variable {handler other : Handler} {rest tail : List String}

/-- The vector, the label and the lines of a handler have no line feeds. -/
structure IsLined (handler : Handler) : Prop where
  /-- The vector is one line. -/
  vector : IsLine handler.vector
  /-- The label is one line. -/
  label : IsLine handler.label
  /-- So is each line of the body. -/
  lines : ∀ line ∈ handler.lines, IsLine line

instance (handler : Handler) : Decidable handler.IsLined :=
  decidable_of_iff
    (IsLine handler.vector ∧ IsLine handler.label ∧ ∀ line ∈ handler.lines, IsLine line)
    ⟨fun ⟨hvector, hlabel, hlines⟩ => ⟨hvector, hlabel, hlines⟩,
      fun ⟨hvector, hlabel, hlines⟩ => ⟨hvector, hlabel, hlines⟩⟩

/-- A handler is written in lines. -/
theorem IsLined.definition (h : handler.IsLined) : ∀ line ∈ handler.definition, IsLine line := by
  have hlabel : IsLine ("/* " ++ handler.label ++ " */") := by
    simp only [isLine_append, h.label, and_true]
    decide
  have hvector : IsLine ("ISR(" ++ handler.vector ++ ")") := by
    simp only [isLine_append, h.vector, and_true]
    decide
  refine List.forall_mem_append.mpr ⟨?_, isLine_block h.lines⟩
  exact List.forall_mem_cons.mpr ⟨by decide, List.forall_mem_cons.mpr
    ⟨hlabel, List.forall_mem_singleton.mpr hvector⟩⟩

/-- The definition of a handler has one block. -/
theorem count_definition {brace : String} (hbrace : brace ∈ braces) (handler : Handler) :
    handler.definition.count brace = 1 := by
  have hhead : brace ∉ ["", "/* " ++ handler.label ++ " */", "ISR(" ++ handler.vector ++ ")"] := by
    intro hmem
    rcases List.mem_cons.mp hmem with rfl | hmem
    · exact absurd hbrace (by decide)
    · rcases List.mem_pair.mp hmem with rfl | rfl <;>
      · rw [String.append_assoc] at hbrace
        exact append_notMem_braces (by decide) _ hbrace
  rw [definition, List.count_append, List.count_eq_zero.mpr hhead, count_block hbrace]

/-- A handler that is written first can be told from its lines. -/
theorem definition_append_inj (h : handler.definition ++ rest = other.definition ++ tail) :
    handler = other ∧ rest = tail := by
  simp only [definition, List.cons_append, List.nil_append, List.cons_eq_cons, true_and,
    String.append_left_inj, String.append_right_inj] at h
  obtain ⟨hlabel, hvector, hblock⟩ := h
  obtain ⟨hlines, hrest⟩ := block_append_inj hblock
  cases handler
  cases other
  cases hlabel
  cases hvector
  cases hlines
  exact ⟨rfl, hrest⟩

/-- Handlers can be told from the lines that they are written in. -/
theorem eq_of_definitions_eq {handlers others : List Handler}
    (h : handlers.flatMap definition = others.flatMap definition) : handlers = others := by
  induction handlers generalizing others with
  | nil => cases others with
    | nil => rfl
    | cons other others => cases h
  | cons handler handlers ih => cases others with
    | nil => cases h
    | cons other others =>
      rw [List.flatMap_cons, List.flatMap_cons] at h
      obtain ⟨rfl, hrest⟩ := definition_append_inj h
      rw [ih hrest]

end Handler

/-- The lines of a routine are not those of handlers, which begin with comments. -/
theorem definition_append_ne (routine : Routine) (rest : List String) (handlers : List Handler) :
    routine.definition ++ rest ≠ handlers.flatMap Handler.definition := by
  intro h
  cases handlers with
  | nil => cases h
  | cons handler handlers =>
    simp only [List.flatMap_cons, Routine.definition, Handler.definition, List.cons_append,
      List.nil_append, List.cons_eq_cons, true_and] at h
    have hchars := congrArg String.toList h.1
    simp only [Routine.prototype, String.toList_append, List.append_assoc] at hchars
    cases hchars

/-- Routines and handlers can be told from the lines that they are written in, one after the
other, but for the arguments that the routines are called with. -/
theorem parts_eq_of_definitions_eq {routines others : List Routine} {handlers stubs : List Handler}
    (h : routines.flatMap Routine.definition ++ handlers.flatMap Handler.definition =
      others.flatMap Routine.definition ++ stubs.flatMap Handler.definition) :
    routines.map (fun routine => (routine.prototype, routine.lines)) =
      others.map (fun routine => (routine.prototype, routine.lines)) ∧ handlers = stubs := by
  induction routines generalizing others with
  | nil => cases others with
    | nil => exact ⟨rfl, Handler.eq_of_definitions_eq h⟩
    | cons other others =>
      rw [List.flatMap_cons, List.append_assoc] at h
      exact absurd h.symm (definition_append_ne other _ handlers)
  | cons routine routines ih => cases others with
    | nil =>
      rw [List.flatMap_cons, List.append_assoc] at h
      exact absurd h (definition_append_ne routine _ stubs)
    | cons other others =>
      simp only [List.flatMap_cons, List.append_assoc] at h
      obtain ⟨hprototype, hlines, hrest⟩ := Routine.definition_append_inj h
      obtain ⟨hroutines, hhandlers⟩ := ih hrest
      rw [List.map_cons, List.map_cons, hprototype, hlines, hroutines]
      exact ⟨rfl, hhandlers⟩

/-! ## Source files -/

/-- What a source file tells. -/
structure Outline where
  /-- The name of the device. -/
  device : String
  /-- When the code was generated, if that is shown. -/
  timestamp : Option String
  /-- The prototypes of the routines, each with its body. -/
  routines : List (String × List String)
  /-- The handlers. -/
  handlers : List Handler
  deriving DecidableEq

namespace Artifact

variable {artifact left right : Artifact}

/-- What the source file of an artifact is made from. -/
def outline (artifact : Artifact) : Outline where
  device := artifact.device
  timestamp := artifact.timestamp
  routines := artifact.routines.map fun routine => (routine.prototype, routine.lines)
  handlers := artifact.handlers

/-- Nothing that is written to the source file has a line feed. -/
structure IsLined (artifact : Artifact) : Prop where
  /-- The name of the device is one line. -/
  device : IsLine artifact.device
  /-- So is the time, if it is shown. -/
  timestamp : ∀ timestamp ∈ artifact.timestamp, IsLine timestamp
  /-- The routines are written in lines. -/
  routines : ∀ routine ∈ artifact.routines, routine.IsLined
  /-- So are the handlers. -/
  handlers : ∀ handler ∈ artifact.handlers, handler.IsLined

instance (artifact : Artifact) : Decidable artifact.IsLined :=
  decidable_of_iff
    (IsLine artifact.device ∧ (∀ timestamp ∈ artifact.timestamp, IsLine timestamp) ∧
      (∀ routine ∈ artifact.routines, routine.IsLined) ∧
      ∀ handler ∈ artifact.handlers, handler.IsLined)
    ⟨fun ⟨hdevice, htimestamp, hroutines, hhandlers⟩ =>
        ⟨hdevice, htimestamp, hroutines, hhandlers⟩,
      fun ⟨hdevice, htimestamp, hroutines, hhandlers⟩ =>
        ⟨hdevice, htimestamp, hroutines, hhandlers⟩⟩

/-- The source file is written in lines. -/
theorem IsLined.sourceLines (h : artifact.IsLined) :
    ∀ line ∈ artifact.sourceLines, IsLine line := by
  have hdevice : IsLine
      ("/* Generated by periphgen for " ++ artifact.device ++ ". Do not edit. */") := by
    simp only [isLine_append, h.device, and_true]
    decide
  have hstamp : ∀ timestamp ∈ artifact.timestamp.toList,
      IsLine ("/* Generated at " ++ timestamp ++ " */") := by
    intro timestamp hmem
    simp only [isLine_append, h.timestamp timestamp (Option.mem_toList.mp hmem), and_true]
    decide
  refine List.forall_mem_append.mpr ⟨List.forall_mem_append.mpr
    ⟨List.forall_mem_append.mpr ⟨List.forall_mem_append.mpr ⟨?_, ?_⟩, by decide⟩, ?_⟩, ?_⟩
  · exact List.forall_mem_singleton.mpr hdevice
  · exact List.forall_mem_map.mpr hstamp
  · refine List.forall_mem_flatMap.mpr ?_
    exact fun routine hroutine => (h.routines routine hroutine).definition
  · refine List.forall_mem_flatMap.mpr ?_
    exact fun handler hhandler => (h.handlers handler hhandler).definition

/-- The lines of a source file, its first one and those of its definitions set apart. -/
theorem sourceLines_eq (artifact : Artifact) :
    artifact.sourceLines =
      ("/* Generated by periphgen for " ++ artifact.device ++ ". Do not edit. */") ::
        (artifact.timestamp.toList.map (fun stamp => "/* Generated at " ++ stamp ++ " */") ++
          "" :: ("#include \"" ++ headerName ++ "\"") ::
            (artifact.routines.flatMap Routine.definition ++
              artifact.handlers.flatMap Handler.definition)) := by
  simp [sourceLines, banner]

/-- A time at the head of a file, if it is shown, can be told from the lines. -/
theorem stamp_append_inj {time other : Option String} {rest tail : List String}
    (h : time.toList.map (fun timestamp => "/* Generated at " ++ timestamp ++ " */") ++ "" :: rest =
      other.toList.map (fun timestamp => "/* Generated at " ++ timestamp ++ " */") ++ "" :: tail) :
    time = other ∧ rest = tail := by
  have hne (timestamp : String) : "/* Generated at " ++ timestamp ++ " */" ≠ "" := by
    intro h
    have hchars := congrArg String.toList h
    simp only [String.toList_append, List.append_assoc] at hchars
    cases hchars
  cases time with
  | none => cases other with
    | none => exact ⟨rfl, (List.cons.inj h).2⟩
    | some timestamp => exact absurd (List.cons.inj h).1.symm (hne timestamp)
  | some timestamp => cases other with
    | none => exact absurd (List.cons.inj h).1 (hne timestamp)
    | some stamp =>
      obtain ⟨hstamp, hrest⟩ := List.cons.inj h
      rw [String.append_left_inj, String.append_right_inj] at hstamp
      exact ⟨congrArg some hstamp, (List.cons.inj hrest).2⟩

/-- The lines of a source file are made from what it tells, and tell nothing else. -/
theorem sourceLines_eq_iff :
    left.sourceLines = right.sourceLines ↔ left.outline = right.outline := by
  constructor
  · intro h
    rw [sourceLines_eq, sourceLines_eq] at h
    obtain ⟨hdevice, hrest⟩ := List.cons.inj h
    rw [String.append_left_inj, String.append_right_inj] at hdevice
    obtain ⟨htimestamp, hrest⟩ := stamp_append_inj hrest
    obtain ⟨hroutines, hhandlers⟩ := parts_eq_of_definitions_eq (List.cons.inj hrest).2
    rw [outline, outline, hdevice, htimestamp, hroutines, hhandlers]
  · intro h
    have hdefinitions (artifact : Artifact) : artifact.routines.flatMap Routine.definition =
        artifact.outline.routines.flatMap fun part => "" :: part.1 :: block part.2 := by
      rw [outline, List.flatMap_map]
      rfl
    have hdevice : left.device = right.device := congrArg Outline.device h
    have htimestamp : left.timestamp = right.timestamp := congrArg Outline.timestamp h
    have hhandlers : left.handlers = right.handlers := congrArg Outline.handlers h
    rw [sourceLines_eq, sourceLines_eq, hdevice, htimestamp, hhandlers, hdefinitions, h,
      ← hdefinitions]

/-- A source file has one block for each definition. -/
theorem count_sourceLines {brace : String} (hbrace : brace ∈ braces) (artifact : Artifact) :
    artifact.sourceLines.count brace = artifact.routines.length + artifact.handlers.length := by
  have hbanner : artifact.banner.count brace = 0 := by
    rw [List.count_eq_zero, banner, List.mem_append, not_or]
    constructor
    · rw [List.mem_singleton]
      rintro rfl
      rw [String.append_assoc] at hbrace
      exact append_notMem_braces (by decide) _ hbrace
    · intro hmem
      obtain ⟨timestamp, -, rfl⟩ := List.mem_map.mp hmem
      rw [String.append_assoc] at hbrace
      exact append_notMem_braces (by decide) _ hbrace
  have hinclude : ["", "#include \"" ++ headerName ++ "\""].count brace = 0 := by
    rcases List.mem_pair.mp hbrace with rfl | rfl <;> decide
  rw [sourceLines, List.count_append, List.count_append, List.count_append, hbanner, hinclude,
    count_flatMap_of_one fun routine _ => routine.count_definition hbrace,
    count_flatMap_of_one fun handler _ => handler.count_definition hbrace, Nat.zero_add]

/-- The text of a source file tells what it was made from, and nothing else, if nothing in it has
a line feed. It has a line that begins a block, and one that ends it, for each routine and each
handler: no line of a body is such a line. -/
theorem source_eq_iff_outline_eq (hleft : left.IsLined) (hright : right.IsLined) :
    (left.source = right.source ↔ left.outline = right.outline) ∧
      ∀ brace ∈ braces, (left.source.toList.splitOn '\n').count brace.toList =
        left.routines.length + left.handlers.length := by
  refine ⟨?_, fun brace hbrace => ?_⟩
  · rw [← sourceLines_eq_iff]
    exact ⟨eq_of_unlines_eq hleft.sourceLines hright.sourceLines, congrArg unlines⟩
  · have hlast : [[]].count brace.toList = 0 := by
      rcases List.mem_pair.mp hbrace with rfl | rfl <;> decide
    rw [source, splitOn_unlines hleft.sourceLines, List.count_append, hlast, Nat.add_zero,
      List.count_map_of_injective _ _ fun _ _ => String.toList_injective, count_sourceLines hbrace]

/-- A routine whose body reads like the end of the routine and the beginning of another one. -/
def disguisedArtifact : Artifact where
  device := "m"
  timestamp := none
  includes := ∅
  initRoutines := [⟨"a", "void", [], ["\x7d", "", "void b(void)", "\x7b"]⟩]
  aggregate := ⟨"init_peripherals", "void", [], []⟩
  handlers := [⟨"V", "*/", []⟩]

/-- The two routines that it reads like. -/
def undisguisedArtifact : Artifact :=
  { disguisedArtifact with initRoutines := [⟨"a", "void", [], []⟩, ⟨"b", "void", [], []⟩] }

/-- The two source files differ, and only two routines and a handler end in the first one. -/
theorem source_eq_iff_outline_eq_disguised :
    disguisedArtifact.IsLined ∧ undisguisedArtifact.IsLined ∧
      disguisedArtifact.source ≠ undisguisedArtifact.source ∧
      (disguisedArtifact.source.toList.splitOn '\n').count ['\x7d'] = 3 := by
  have hlined : disguisedArtifact.IsLined := by decide
  have hother : undisguisedArtifact.IsLined := by decide
  obtain ⟨hiff, hcount⟩ := source_eq_iff_outline_eq hlined hother
  exact ⟨hlined, hother, mt hiff.mp (by decide), hcount "\x7d" (by decide)⟩

end Artifact

end AvrSetup
