import AvrSetup.Text.CodeRange

/-!
# Characters of documents

The characters that XML allows, and those that its names are made of.
-/

namespace AvrSetup.Xml

/-- Whether a character is a blank of the markup. -/
def isBlank (c : Char) : Bool := c == ' ' || c == '\t' || c == '\n' || c == '\r'

/-- Whether a character may stand in a document. -/
def isAllowed (c : Char) : Bool :=
  if c.toNat < 0x20 then isBlank c else c.toNat != 0xFFFE && c.toNat != 0xFFFF

/-- The ranges of code points beyond ASCII that may begin a name. -/
def nameStartRanges : List Text.CodeRange :=
  [(0xC0, 0xD6), (0xD8, 0xF6), (0xF8, 0x2FF), (0x370, 0x37D), (0x37F, 0x1FFF), (0x200C, 0x200D),
    (0x2070, 0x218F), (0x2C00, 0x2FEF), (0x3001, 0xD7FF), (0xF900, 0xFDCF), (0xFDF0, 0xFFFD),
    (0x10000, 0xEFFFF)]

/-- The ranges of code points beyond ASCII that may only continue a name. -/
def namePartRanges : List Text.CodeRange := [(0xB7, 0xB7), (0x300, 0x36F), (0x203F, 0x2040)]

/-- Whether a character may begin a name. -/
def isNameStart (c : Char) : Bool :=
  c.isAlpha || c == '_' || c == ':' || Text.inRanges nameStartRanges c.toNat

/-- Whether a character may stand in a name. -/
def isNamePart (c : Char) : Bool :=
  isNameStart c || c.isDigit || c == '-' || c == '.' || Text.inRanges namePartRanges c.toNat

end AvrSetup.Xml
