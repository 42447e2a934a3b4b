import AvrSetup.Json.Token

/-!
# Reading JSON trees

The words of a JSON text are put together by a machine that takes one word at a time and
keeps the arrays and objects still open on a stack (`Assembler.step`). A member that is
given twice keeps its first place and its last value.
-/

namespace AvrSetup.Json

/-- An array or object still open. -/
inductive Frame where
  /-- An array with the items so far, the last one first. -/
  | array (items : List Json)
  /-- An object with the members so far, and the key of the member being read. -/
  | object (members : List (String × Json)) (key : String)

/-- What the words so far lead up to. -/
inductive Assembler where
  /-- A value has to follow. -/
  | expectValue (frames : List Frame)
  /-- An array was just opened: a value or its end has to follow. -/
  | firstItem (frames : List Frame)
  /-- An object was just opened: a key or its end has to follow. -/
  | firstKey (frames : List Frame)
  /-- A comma was read in an object: a key has to follow. -/
  | nextKey (members : List (String × Json)) (frames : List Frame)
  /-- A key was read: a colon has to follow. -/
  | colon (members : List (String × Json)) (key : String) (frames : List Frame)
  /-- An item or member is complete: a comma or the end of its frame has to follow. -/
  | separator (frame : Frame) (frames : List Frame)
  /-- The whole value is complete: nothing may follow. -/
  | complete (result : Json)

namespace Assembler

/-- The greatest number of arrays and objects that may be open at once, empty ones apart. -/
def depthLimit : Nat := 512

/-- Put a complete value into the innermost open frame. -/
def finish (value : Json) : List Frame → Assembler
  | [] => complete value
  | .array items :: rest => separator (.array (value :: items)) rest
  | .object members key :: rest => separator (.object (setMember key value members) key) rest

/-- Take a word where a value has to follow. -/
def stepValue (frames : List Frame) : JsonToken → Except JsonFailure Assembler
  | .openArray => .ok (firstItem frames)
  | .openObject => .ok (firstKey frames)
  | .string content => .ok (finish (.string content) frames)
  | .scalar simple => .ok (finish simple frames)
  | _ => .error .misplaced

/-- Take one word. -/
def step (state : Assembler) (token : JsonToken) : Except JsonFailure Assembler :=
  match state, token with
  | expectValue frames, token => stepValue frames token
  | firstItem frames, .closeArray => .ok (finish (.array []) frames)
  | firstItem frames, token =>
    if frames.length < depthLimit then stepValue (.array [] :: frames) token
    else .error .tooDeep
  | firstKey frames, .closeObject => .ok (finish (.object []) frames)
  | firstKey frames, .string key =>
    if frames.length < depthLimit then .ok (colon [] key frames) else .error .tooDeep
  | nextKey members frames, .string key => .ok (colon members key frames)
  | colon members key frames, .colon => .ok (expectValue (.object members key :: frames))
  | separator (.array items) frames, .comma => .ok (expectValue (.array items :: frames))
  | separator (.array items) frames, .closeArray => .ok (finish (.array items.reverse) frames)
  | separator (.object members _) frames, .comma => .ok (nextKey members frames)
  | separator (.object members _) frames, .closeObject => .ok (finish (.object members) frames)
  | _, _ => .error .misplaced

end Assembler

/-- The value that a list of words spells. -/
def ofTokens (tokens : List JsonToken) : Except JsonFailure Json := do
  match ← tokens.foldlM Assembler.step (.expectValue []) with
  | .complete result => return result
  | _ => throw .unexpectedEnd

/-- The value that a text spells. -/
def parse (text : String) : Except JsonFailure Json := do
  ofTokens (← JsonToken.scan text.toList)

end AvrSetup.Json
