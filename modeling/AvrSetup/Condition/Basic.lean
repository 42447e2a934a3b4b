import AvrSetup.Setting.Value

/-!
# Conditions on settings

Descriptions state when a field matters, when a template applies and when an interrupt is
meant, each as a condition on a record of settings. A condition is a list of clauses that
all have to hold; a clause compares one setting with a list of values, or asks whether it
is set. Conditions keep the text that they were written as.
-/

namespace AvrSetup

/-- One requirement on one setting. -/
inductive Clause where
  /-- The setting is there, and is one of the values. -/
  | anyOf (key : String) (values : List String)
  /-- The setting is not there, or is none of the values. -/
  | noneOf (key : String) (values : List String)
  /-- The setting is there and counts as set. -/
  | isSet (key : String)
  /-- The setting is not there or does not count as set. -/
  | isUnset (key : String)
  deriving DecidableEq, Repr

namespace Clause

/-- The setting that a clause is about. -/
def key : Clause → String
  | anyOf key _ => key
  | noneOf key _ => key
  | isSet key => key
  | isUnset key => key

/-- Whether a clause holds of the value of its setting. -/
def holdsOf (value : Option Value) : Clause → Bool
  | anyOf _ values => value.any fun v => values.contains v.keyText
  | noneOf _ values => !value.any fun v => values.contains v.keyText
  | isSet _ => value.any Value.isTruthy
  | isUnset _ => !value.any Value.isTruthy

/-- Whether a clause holds of a record. -/
def holds (clause : Clause) (settings : Settings) : Bool :=
  clause.holdsOf (settings.get? clause.key)

/-- A clause as it is written. -/
def source : Clause → String
  | anyOf key values => key ++ "=" ++ String.intercalate "|" values
  | noneOf key values => key ++ "!=" ++ String.intercalate "|" values
  | isSet key => key
  | isUnset key => "!" ++ key

end Clause

/-- Clauses that all have to hold. -/
structure Condition where
  /-- The condition as it was written. -/
  source : String
  /-- The requirements. -/
  clauses : List Clause
  deriving DecidableEq, Repr

namespace Condition

/-- Whether a condition holds of a record. -/
def holds (condition : Condition) (settings : Settings) : Bool :=
  condition.clauses.all fun clause => clause.holds settings

/-- The settings that a condition reads, in the order of its clauses. -/
def keys (condition : Condition) : List String := condition.clauses.map Clause.key

/-- The condition of a list of clauses, written with semicolons between them. -/
def ofClauses (clauses : List Clause) : Condition :=
  ⟨String.intercalate ";" (clauses.map Clause.source), clauses⟩

/-- Whether an optional condition holds: one that is not given does. -/
def holdsIfGiven (condition : Option Condition) (settings : Settings) : Bool :=
  condition.all fun given => given.holds settings

end Condition

end AvrSetup
