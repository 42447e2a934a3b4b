import AvrSetup.Text.GraphemeExtend
import AvrSetup.Text.Shapeless

/-!
# Quoted text in messages

Messages show a text from the input between double quotes. Inside, quotes, backslashes
and the usual control characters are written with a backslash. Every other character that
has no shape of its own, or is drawn onto the one before it, is written as its code point
in hexadecimal.
-/

namespace AvrSetup.Text

/-- Whether a character is written as its code point. The ASCII characters from the space to the
tilde never are, and of the others those that could not be told from the text around them. -/
def isShownAsCode (c : Char) : Bool :=
  !(' ' ≤ c && c ≤ '~') && (isShapeless c || isDrawnOntoPrevious c)

/-- A number in hexadecimal, in lower case and without leading zeros. -/
def hexadecimal (value : Nat) : String := .ofList (Nat.toDigits 16 value)

/-- How one character is written between quotes. -/
def quotedChar (c : Char) : String :=
  match c with
  | '\x00' => "\\0"
  | '\t' => "\\t"
  | '\r' => "\\r"
  | '\n' => "\\n"
  | '"' => "\\\""
  | '\\' => "\\\\"
  | _ => if isShownAsCode c then "\\u\x7b" ++ hexadecimal c.toNat ++ "\x7d" else c.toString

/-- A text between double quotes. -/
def quoted (text : String) : String := "\"" ++ String.join (text.toList.map quotedChar) ++ "\""

end AvrSetup.Text
