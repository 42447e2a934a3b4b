/-!
# XML trees

A document is a tree of elements, texts, comments and processing instructions. Elements
know where in the document they stand. Text and character data sections that touch form
one text.
-/

namespace AvrSetup.Xml

/-- A place in a text: rows and columns count from one, and columns count characters. -/
structure Position where
  /-- The row. -/
  row : Nat
  /-- The column. -/
  column : Nat
  deriving DecidableEq, Repr

namespace Position

/-- The place of the first character. -/
def start : Position := ⟨1, 1⟩

/-- The place behind a character. -/
def next (position : Position) (c : Char) : Position :=
  if c = '\n' then ⟨position.row + 1, 1⟩ else ⟨position.row, position.column + 1⟩

end Position

/-- A stretch of a text, from its first place to the place behind it. -/
structure Span where
  /-- The first place. -/
  first : Position
  /-- The place behind. -/
  behind : Position
  deriving DecidableEq, Repr

/-- How a stretch is shown: as a point, as columns of one row, or from place to place. -/
def Span.text (span : Span) : String :=
  let point (position : Position) := toString position.row ++ ":" ++ toString position.column
  if span.first.row ≠ span.behind.row then point span.first ++ ".." ++ point span.behind
  else if span.first.column ≠ span.behind.column then
    point span.first ++ "-" ++ toString span.behind.column
  else point span.first

/-- The name of an element or attribute. -/
structure Name where
  /-- The namespace, if the name has one. -/
  space : Option String
  /-- The name within its namespace. -/
  base : String
  deriving DecidableEq, Repr

/-- An attribute of an element. -/
structure Attribute where
  /-- The name of the attribute. -/
  name : Name
  /-- Its value. -/
  value : String
  deriving DecidableEq, Repr

/-- A part of a document. -/
inductive Node where
  /-- An element. -/
  | element (name : Name) (attributes : List Attribute) (span : Span) (children : List Node)
  /-- A text. -/
  | text (content : String)
  /-- A comment. -/
  | comment (content : String)
  /-- A processing instruction. -/
  | instruction (target content : String)
  deriving Inhabited

/-- An element by itself. -/
structure Element where
  /-- The name of the element. -/
  name : Name
  /-- Its attributes, in order. -/
  attributes : List Attribute
  /-- Where it stands, from its opening tag to its closing one. -/
  span : Span
  /-- What it holds, in order. -/
  children : List Node

/-- The element that a part of a document is. -/
def Node.element? : Node → Option Element
  | element name attributes span children => some ⟨name, attributes, span, children⟩
  | _ => none

namespace Element

/-- The name of an element without its namespace. -/
def tag (element : Element) : String := element.name.base

/-- The value of an attribute that has no namespace. -/
def attribute? (element : Element) (name : String) : Option String :=
  (element.attributes.find? fun given => given.name == ⟨none, name⟩).map Attribute.value

/-- The elements that an element holds. -/
def elements (element : Element) : List Element := element.children.filterMap Node.element?

/-- The text at the start of an element: none if it holds something else first. -/
def leadingText (element : Element) : String :=
  match element.children with
  | .text content :: _ => content
  | _ => ""

end Element

end AvrSetup.Xml
