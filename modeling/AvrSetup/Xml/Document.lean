import AvrSetup.Xml.CharacterData
import AvrSetup.Xml.Token

/-!
# Reading documents

The tokens of a document are put together one by one, with the elements still open on a
stack (`Builder.step`). Opening tags declare namespaces for themselves and for what they
hold; names are resolved by the innermost declaration. A document has one element that
holds everything else, and only blanks, comments and processing instructions around it.
-/

namespace AvrSetup.Xml

/-- The namespaces that qualifiers stand for, the innermost declaration first. Unqualified
element names look up the empty qualifier. -/
abbrev Namespaces := List (String × String)

namespace Namespaces

/-- The namespace that the qualifier `xml` always stands for. -/
def xmlSpace : String := "http://www.w3.org/XML/1998/namespace"

/-- The namespace of declarations, which may not be declared itself. -/
def declarationSpace : String := "http://www.w3.org/2000/xmlns/"

/-- Declare a qualifier on an element, given what the element declares already. -/
def declare (own : Namespaces) (qualifier space : String) : Except Failure Namespaces :=
  if space = declarationSpace then .error (.invalidNamespace qualifier)
  else if qualifier = "xml" then
    if space = xmlSpace then .ok own else .error (.invalidNamespace qualifier)
  else if space = xmlSpace then .error (.invalidNamespace qualifier)
  else if own.any fun entry => entry.1 == qualifier then .error (.invalidNamespace qualifier)
  else .ok (own ++ [(qualifier, space)])

/-- Declare the namespace of unqualified names on an element. -/
def declareDefault (own : Namespaces) (space : String) : Except Failure Namespaces :=
  if space = declarationSpace ∨ space = xmlSpace then .error (.invalidNamespace "")
  else .ok (own ++ [("", space)])

/-- The namespace that a qualifier stands for. -/
def space? (namespaces : Namespaces) (qualifier : String) : Option String :=
  (namespaces.find? fun entry => entry.1 == qualifier).map (·.2)

/-- The name of an element. The word that declares namespaces is none itself, even if it is
declared. -/
def elementName (namespaces : Namespaces) (name : RawName) : Except Failure Name :=
  if name.qualifier = "xmlns" then .error (.unknownNamespace name.qualifier)
  else match namespaces.space? name.qualifier with
    | some space => .ok ⟨some space, name.base⟩
    | none =>
      if name.qualifier = "" then .ok ⟨none, name.base⟩
      else .error (.unknownNamespace name.qualifier)

/-- The name of an attribute, which has no namespace if it is unqualified. -/
def attributeName (namespaces : Namespaces) (name : RawName) : Except Failure Name :=
  if name.qualifier = "" then .ok ⟨none, name.base⟩
  else if name.qualifier = "xml" then .ok ⟨some xmlSpace, name.base⟩
  else namespaces.elementName name

end Namespaces

/-- What an opening tag says: the namespaces that it declares and its attributes. -/
structure TagContent where
  /-- The namespaces declared. -/
  declared : Namespaces
  /-- The attributes. -/
  attributes : List (RawName × String)

namespace TagContent

/-- Take one more attribute of a tag. -/
def take (content : TagContent) (name : RawName) (value : String) : Except Failure TagContent :=
  if name.qualifier = "xmlns" then
    return { content with declared := ← content.declared.declare name.base value }
  else if name.base = "xmlns" then
    return { content with declared := ← content.declared.declareDefault value }
  else .ok { content with attributes := content.attributes ++ [(name, value)] }

/-- What the attributes of a tag say. -/
def ofAttributes (attributes : List (RawName × List Char)) : Except Failure TagContent :=
  attributes.foldlM (fun content (name, raw) => do content.take name (← attributeContent raw))
    ⟨[], []⟩

/-- Add an attribute with its name resolved, unless there is one of that name. -/
def addAttribute (namespaces : Namespaces) (attributes : List Attribute)
    (given : RawName × String) : Except Failure (List Attribute) := do
  let name ← namespaces.attributeName given.1
  if attributes.any fun other => other.name == name then throw (.duplicateAttribute name.base)
  return attributes ++ [⟨name, given.2⟩]

end TagContent

/-- An element that is not closed yet. -/
structure OpenElement where
  /-- The name as it is written. -/
  raw : RawName
  /-- The name. -/
  name : Name
  /-- The attributes. -/
  attributes : List Attribute
  /-- Where the element begins. -/
  first : Position
  /-- The namespaces that hold inside. -/
  namespaces : Namespaces
  /-- What it holds so far, the last one first. -/
  children : List Node

/-- Put a part behind others, of which the last comes first. Texts that touch become one. -/
def pushNode (node : Node) (before : List Node) : List Node :=
  match node, before with
  | .text content, .text earlier :: rest => .text (earlier ++ content) :: rest
  | node, before => node :: before

/-- What the tokens so far lead up to. -/
structure Builder where
  /-- The elements still open, the innermost first. -/
  frames : List OpenElement
  /-- The element that holds everything, once it is closed. -/
  root : Option Element

namespace Builder

/-- Put a part into the innermost open element. -/
def push (node : Node) : List OpenElement → List OpenElement
  | [] => []
  | frame :: frames => { frame with children := pushNode node frame.children } :: frames

/-- Close an element: it goes into the one around it, or is the root. -/
def close (builder : Builder) (frame : OpenElement) (behind : Position) : Builder :=
  let span : Span := ⟨frame.first, behind⟩
  let children := frame.children.reverse
  match builder.frames with
  | [] => ⟨[], some ⟨frame.name, frame.attributes, span, children⟩⟩
  | frames => ⟨push (.element frame.name frame.attributes span children) frames, builder.root⟩

/-- Open an element. -/
def openElement (builder : Builder) (name : RawName) (attributes : List (RawName × List Char))
    (first : Position) : Except Failure OpenElement := do
  if builder.frames.isEmpty && builder.root.isSome then throw (.misplaced "element")
  let content ← TagContent.ofAttributes attributes
  let outer := (builder.frames.head?.map OpenElement.namespaces).getD []
  let namespaces := content.declared ++ outer
  let resolved ← content.attributes.foldlM (TagContent.addAttribute namespaces) []
  return ⟨name, ← namespaces.elementName name, resolved, first, namespaces, []⟩

/-- Take one token. -/
def step (builder : Builder) (lexeme : Lexeme) : Except Failure Builder := do
  match lexeme.token with
  | .instruction target content =>
    return { builder with frames := push (.instruction target content) builder.frames }
  | .comment content => return { builder with frames := push (.comment content) builder.frames }
  | .characterData content =>
    if builder.frames.isEmpty then throw (.misplaced "character data")
    return { builder with frames := push (.text (sectionContent content)) builder.frames }
  | .text content =>
    if builder.frames.isEmpty then
      if content.all isBlank then return builder else throw (.misplaced "text")
    return { builder with frames := push (.text (← textContent content)) builder.frames }
  | .opening name attributes closed =>
    let frame ← builder.openElement name attributes lexeme.span.first
    if closed then return builder.close frame lexeme.span.behind
    return { builder with frames := frame :: builder.frames }
  | .closing name =>
    match builder.frames with
    | [] => throw (.misplaced "closing tag")
    | frame :: frames =>
      if frame.raw ≠ name then throw (.mismatchedTag name.base)
      return { builder with frames }.close frame lexeme.span.behind

/-- The root element of a document that ends here. -/
def finish (builder : Builder) : Except Failure Element :=
  match builder.frames, builder.root with
  | [], some root => .ok root
  | _, _ => .error .noRoot

end Builder

/-- The root element of a document. -/
def parse (text : String) : Except Failure Element := do
  if let some c := text.toList.find? fun c => !isAllowed c then throw (.invalidCharacter c)
  let start ← (Cursor.skipOrderMark ⟨.start, text.toList⟩).skipDeclaration
  let builder ← (← start.scan).foldlM Builder.step ⟨[], none⟩
  builder.finish

end AvrSetup.Xml
