import AvrSetup.Device.Descriptor
import AvrSetup.Text.Blank
import AvrSetup.Text.LetterCase

/-!
# From given settings to the ones in force

Settings that are not given take their defaults, and those that do not matter under the
others are left out (`Settings.effective`). One setting may then select templates by a
mode key (`Settings.modeKey?`), and tables replace values by what the code needs
(`Settings.tabulated`).
-/

namespace AvrSetup

/-- The mode key that a value stands for by itself: its words in lower case, joined by
underscores. -/
def derivedModeKey (value : String) : String :=
  .ofList (Text.lower (['_'].intercalate (Text.words value.toList)))

/-- The mode key for the key text of a value: the one in the table, else the derived one. -/
def ModeTable.keyFor (mode : ModeTable) (value : String) : String :=
  (mode.keys.get? value).getD (derivedModeKey value)

namespace Settings

/-- The mode key that a record selects, if its mode setting counts as set. -/
def modeKey? (settings : Settings) (mode : Option ModeTable) : Option String := do
  let mode ← mode
  let value ← settings.get? mode.field
  if value.isTruthy then some (mode.keyFor value.keyText) else none

/-- The record with every value that a table lists replaced by the text in the table. -/
def tabulated (settings : Settings) (tables : SortedMap String ValueTable) : Settings :=
  settings.mapValues fun key value =>
    match (tables.get? key).bind fun table => table.get? value.keyText with
    | some text => .text text
    | none => value

/-- The record with the default of every field that it does not mention. -/
def withDefaults (settings : Settings) (fields : List Field) : Settings :=
  fields.foldl (fun settings field =>
    if settings.contains field.key then settings else settings.insert field.key field.default)
    settings

/-- The keys of the fields that do not matter under a record. -/
def hiddenKeys (settings : Settings) (fields : List Field) : List String :=
  (fields.filter fun field => !field.isVisible settings).map Field.key

/-- The record in force: defaults are filled in, and then the fields that do not matter
are left out. Settings that no field declares are kept. -/
def effective (fields : List Field) (scope : Scope) (given : Settings) : Settings :=
  let fields := fields.filter fun field => field.isIn scope
  let filled := given.withDefaults fields
  filled.filterKeys fun key => !(filled.hiddenKeys fields).contains key

end Settings

end AvrSetup
