/-!
# Faults of documents

The reasons why a text is no XML document.
-/

namespace AvrSetup.Xml

/-- Why a text is no document. -/
inductive Failure where
  /-- A character may not stand in a document. -/
  | invalidCharacter (c : Char)
  /-- The text ends inside a tag, a comment or something else that has to be closed. -/
  | unexpectedEnd
  /-- Something stands where it may not. -/
  | misplaced (what : String)
  /-- A name is empty or begins or continues with a wrong character. -/
  | invalidName
  /-- A comment holds two hyphens in a row or ends in a hyphen. -/
  | invalidComment
  /-- A text holds the mark that ends a character data section. -/
  | invalidText
  /-- A reference names no character. -/
  | invalidReference (reference : String)
  /-- A namespace is declared in a way that is reserved, or twice. -/
  | invalidNamespace (declared : String)
  /-- A name uses a namespace that is not declared. -/
  | unknownNamespace (used : String)
  /-- An element has two attributes of one name. -/
  | duplicateAttribute (name : String)
  /-- A closing tag closes another element than the last one opened. -/
  | mismatchedTag (name : String)
  /-- There is no element, or it is not closed. -/
  | noRoot
  deriving DecidableEq, Repr

/-- What is wrong with a text that is no document. -/
def Failure.message : Failure → String
  | invalidCharacter c => "invalid character " ++ c.toString
  | unexpectedEnd => "unexpected end of document"
  | misplaced what => "unexpected " ++ what
  | invalidName => "invalid name"
  | invalidComment => "invalid comment"
  | invalidText => "invalid character data"
  | invalidReference reference => "invalid reference &" ++ reference ++ ";"
  | invalidNamespace declared => "invalid declaration of namespace " ++ declared
  | unknownNamespace used => "unknown namespace " ++ used
  | duplicateAttribute name => "duplicate attribute " ++ name
  | mismatchedTag name => "mismatched closing tag " ++ name
  | noRoot => "no complete root element"

end AvrSetup.Xml
