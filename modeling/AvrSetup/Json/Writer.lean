import AvrSetup.Json.Basic

/-!
# JSON as text

A tree is written in two forms: compact, on one line without blanks (`Json.compact`), and
laid out with one element per line (`Json.pretty`). Strings escape quotes, backslashes and
control characters, and nothing else. A number shows all the digits of its mantissa.
-/

namespace AvrSetup

namespace JsonNumber

/-- The longest run of digits and zeros that is written without an exponent. -/
def plainWidth : Nat := 20

/-- The most decimal places that are written without an exponent. -/
def plainPlaces : Nat := 17

/-- The digits of a mantissa with one place before the point. -/
def withPoint (digits : List Char) : String :=
  match digits.drop 1 with
  | [] => .ofList digits
  | rest => .ofList (digits.take 1) ++ "." ++ .ofList rest

/-- A number too great to be written without an exponent. -/
def greatText (digits : List Char) (exponent : Nat) : String :=
  withPoint digits ++ "e" ++ toString (exponent + (digits.length - 1))

/-- A number with too many decimal places to be written without an exponent. An exponent of zero
is left out, and a positive one has a sign. -/
def fineText (digits : List Char) (places : Nat) : String :=
  let exponent : Int := digits.length - 1 - places
  withPoint digits ++
    if exponent = 0 then ""
    else "e" ++ (if 0 < exponent then "+" else "") ++ toString exponent

/-- The digits of a mantissa with a number of them behind the point. -/
def positional (digits : List Char) (places : Nat) : String :=
  let padded := List.replicate (places + 1 - digits.length) '0' ++ digits
  .ofList (padded.take (padded.length - places)) ++ "." ++
    .ofList (padded.drop (padded.length - places))

/-- A number without its sign. -/
def unsignedText (number : JsonNumber) : String :=
  let digits := (toString number.mantissa).toList
  let places := number.exponent.natAbs
  if number.mantissa = 0 then "0"
  else if number.exponent = 0 then .ofList digits
  else if 0 < number.exponent then
    if digits.length + places ≤ plainWidth then .ofList (digits ++ List.replicate places '0')
    else greatText digits places
  else if places ≤ plainPlaces then positional digits places
  else fineText digits places

/-- A number as text. -/
def text (number : JsonNumber) : String :=
  (if number.negative then "-" else "") ++ number.unsignedText

end JsonNumber

namespace Json

/-- A hexadecimal digit in lower case. -/
def hexDigit (value : Nat) : Char := Nat.digitChar (value % 16)

/-- How one character is written inside a string. -/
def escapedChar (c : Char) : String :=
  match c with
  | '"' => "\\\""
  | '\\' => "\\\\"
  | '\x08' => "\\b"
  | '\t' => "\\t"
  | '\n' => "\\n"
  | '\x0c' => "\\f"
  | '\r' => "\\r"
  | _ =>
    if c.toNat < 0x20 then "\\u00" ++ .ofList [hexDigit (c.toNat / 16), hexDigit c.toNat]
    else c.toString

/-- A string with its quotes. -/
def stringText (text : String) : String :=
  "\"" ++ String.join (text.toList.map escapedChar) ++ "\""

/-- Parts between brackets, separated by commas. -/
def between (opening closing : String) (parts : List String) : String :=
  opening ++ String.intercalate "," parts ++ closing

/-- Parts between brackets, each on a line of its own, or nothing between the brackets. -/
def onLines (indent : Nat) (opening closing : String) : List String → String
  | [] => opening ++ closing
  | parts =>
    let margin (width : Nat) : String := .ofList (List.replicate width ' ')
    opening ++ "\n" ++ margin (indent + 2) ++
      String.intercalate (",\n" ++ margin (indent + 2)) parts ++ "\n" ++ margin indent ++ closing

mutual

/-- A value on one line. -/
def compact : Json → String
  | null => "null"
  | bool value => if value then "true" else "false"
  | number value => value.text
  | string text => stringText text
  | array items => between "[" "]" (compactItems items)
  | object members => between "\x7b" "\x7d" (compactMembers members)

/-- The items of an array, each on one line. -/
def compactItems : List Json → List String
  | [] => []
  | item :: rest => compact item :: compactItems rest

/-- The members of an object, each on one line. -/
def compactMembers : List (String × Json) → List String
  | [] => []
  | (key, value) :: rest => (stringText key ++ ":" ++ compact value) :: compactMembers rest

end

mutual

/-- A value over several lines, whose inner lines are indented by two more blanks. -/
def laidOut (indent : Nat) : Json → String
  | null => "null"
  | bool value => if value then "true" else "false"
  | number value => value.text
  | string text => stringText text
  | array items => onLines indent "[" "]" (laidOutItems (indent + 2) items)
  | object members => onLines indent "\x7b" "\x7d" (laidOutMembers (indent + 2) members)

/-- The items of an array, each over its own lines. -/
def laidOutItems (indent : Nat) : List Json → List String
  | [] => []
  | item :: rest => laidOut indent item :: laidOutItems indent rest

/-- The members of an object, each over its own lines. -/
def laidOutMembers (indent : Nat) : List (String × Json) → List String
  | [] => []
  | (key, value) :: rest =>
    (stringText key ++ ": " ++ laidOut indent value) :: laidOutMembers indent rest

end

/-- A value laid out from the first column. -/
def pretty (value : Json) : String := laidOut 0 value

end Json

end AvrSetup
