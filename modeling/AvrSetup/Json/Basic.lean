/-!
# JSON trees

A JSON value as a tree. Numbers keep their decimal mantissa and exponent, so that a number
can be shown again as it was written; members of an object keep their order.
-/

namespace AvrSetup

/-- A decimal number: the mantissa times ten to the exponent, with a sign. -/
structure JsonNumber where
  /-- Whether the number is written with a minus sign. -/
  negative : Bool
  /-- The digits without the decimal point. -/
  mantissa : Nat
  /-- The power of ten that the mantissa is scaled by. -/
  exponent : Int
  deriving DecidableEq, Inhabited

/-- A JSON value. -/
inductive Json where
  /-- The value `null`. -/
  | null
  /-- A truth value. -/
  | bool (value : Bool)
  /-- A number. -/
  | number (value : JsonNumber)
  /-- A string. -/
  | string (text : String)
  /-- An array of values. -/
  | array (items : List Json)
  /-- An object, with its members in order. -/
  | object (members : List (String × Json))
  deriving Inhabited

namespace Json

/-- Set a member: a new one goes to the end, an old one keeps its place. -/
def setMember (key : String) (value : Json) : List (String × Json) → List (String × Json)
  | [] => [(key, value)]
  | (k, v) :: rest => if k = key then (k, value) :: rest else (k, v) :: setMember key value rest

/-- The value of a member. -/
def member? (key : String) (members : List (String × Json)) : Option Json :=
  (members.find? fun entry => entry.1 == key).map (·.2)

/-- A string, or `null` where there is none. -/
def ofText? : Option String → Json
  | some text => string text
  | none => null

end Json

end AvrSetup
