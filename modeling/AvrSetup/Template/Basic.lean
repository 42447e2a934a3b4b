import AvrSetup.SortedMap

/-!
# Code templates

A line of generated code is a template: literal text with placeholders, each to be filled
by a parameter of that name. Filling goes from left to right and stops at the first
placeholder without a parameter; what is filled in is not looked at again.
-/

namespace AvrSetup

/-- The texts that placeholders stand for, by their names. -/
abbrev Parameters := SortedMap String String

/-- A part of a template. -/
inductive Segment where
  /-- Text that stands for itself. -/
  | literal (text : String)
  /-- A parameter to be filled in. -/
  | placeholder (name : String)
  deriving DecidableEq, Repr

namespace Segment

/-- A segment as it is written. -/
def source : Segment → String
  | literal text => text
  | placeholder name => "\x7b\x7b" ++ name ++ "\x7d\x7d"

/-- The placeholder that a segment is. -/
def placeholder? : Segment → Option String
  | literal _ => none
  | placeholder name => some name

/-- The text of a segment, or the name that no parameter has. -/
def render (parameters : Parameters) : Segment → Except String String
  | literal text => .ok text
  | placeholder name =>
    match parameters.get? name with
    | some text => .ok text
    | none => .error name

end Segment

/-- A line of code with placeholders. -/
structure Template where
  /-- The template as it was written. -/
  source : String
  /-- Its parts, in order. -/
  segments : List Segment
  deriving DecidableEq, Repr

namespace Template

/-- The template of a list of parts, written without blanks inside the braces. -/
def ofSegments (segments : List Segment) : Template :=
  ⟨String.join (segments.map Segment.source), segments⟩

/-- The names of the placeholders, in order of appearance. -/
def placeholders (template : Template) : List String :=
  template.segments.filterMap Segment.placeholder?

/-- Whether a template has a placeholder of a name. -/
def mentions (template : Template) (name : String) : Bool := template.placeholders.contains name

/-- Fill in a template, or give the first name that no parameter has. -/
def render (template : Template) (parameters : Parameters) : Except String String :=
  (template.segments.mapM (Segment.render parameters)).map String.join

end Template

end AvrSetup
