import AvrSetup.Proofs.Description
import AvrSetup.Proofs.Pieces
import AvrSetup.Proofs.Spelling
import Mathlib.Data.Nat.Digits.Defs

/-!
# Mode keys tell values apart

The value of the mode setting leads to a mode key, either by the table of the peripheral or by its
own words. The two ways could meet, so that a value which no table lists selects the templates of
one that it does. A description with such a listed value is refused. What is shown here is that
this leaves one way to meet: for a number, which is its own mode key, if the table gives this key to
another number (`Device.mode_keys_apart`).
-/

namespace AvrSetup

/-! ## Numbers as mode keys -/

/-- A number in decimal has digits, and perhaps a sign. -/
theorem isDigit_or_eq_of_mem_toString {number : Int} {c : Char}
    (h : c ∈ (toString number).toList) : c.isDigit = true ∨ c = '-' := by
  have hdigits {size : Nat} (h : c ∈ size.repr.toList) : c.isDigit = true := by
    rw [Nat.toList_repr] at h
    exact Nat.isDigit_of_mem_toDigits (by decide) (by decide) h
  cases number with
  | ofNat size => exact .inl (hdigits h)
  | negSucc size =>
    have happend : (toString (Int.negSucc size)).toList = '-' :: (size + 1).repr.toList := by
      simp [toString, Int.repr]
    rw [happend] at h
    rcases List.mem_cons.mp h with rfl | hmem
    · exact .inr rfl
    · exact .inl (hdigits hmem)

/-- The characters of a number are neither blank nor capital letters. -/
theorem isBlank_and_isUpper_of_mem_toString {number : Int} {c : Char}
    (h : c ∈ (toString number).toList) :
    Text.isBlank c = false ∧ c.toNat < 0x80 ∧ c.isUpper = false := by
  rcases isDigit_or_eq_of_mem_toString h with hdigit | rfl
  · have hpart : Text.isIdentifierPart c = true := by
      simp [Text.isIdentifierPart, Char.isAlphanum, hdigit]
    delta Char.isDigit at hdigit
    simp only [Bool.and_eq_true, decide_eq_true_eq, ge_iff_le,
      UInt32.le_iff_toNat_le] at hdigit
    simp only [Char.reduceVal, UInt32.reduceToNat, Char.toNat_val] at hdigit
    refine ⟨Text.isBlank_of_isIdentifierPart hpart, by omega, ?_⟩
    rw [Bool.eq_false_iff]
    intro hupper
    delta Char.isUpper at hupper
    simp only [decide_eq_true_eq, ge_iff_le, UInt32.le_iff_toNat_le] at hupper
    simp only [Char.reduceVal, UInt32.reduceToNat, Char.toNat_val] at hupper
    omega
  · decide

/-- A number is its own mode key. -/
theorem derivedModeKey_toString (number : Int) :
    derivedModeKey (toString number) = toString number := by
  have hwords : Text.words (toString number).toList = [(toString number).toList] := by
    have hsplit : (toString number).toList.splitOnP Text.isBlank = [(toString number).toList] :=
      List.splitOnP_eq_singleton fun c hc => (isBlank_and_isUpper_of_mem_toString hc).1
    have hne : (toString number).toList ≠ [] :=
      String.toList_eq_nil_iff.not.mpr (toString_int_ne_empty number)
    rw [Text.words, hsplit, List.filter_cons_of_pos (by simpa using hne), List.filter_nil]
  rw [derivedModeKey, hwords, List.intercalate_singleton,
    Text.lower_eq_self fun c hc => (isBlank_and_isUpper_of_mem_toString hc).2,
    String.ofList_toList]

/-! ## Keys from the table and derived keys -/

/-- A value that counts as set selects the key that the table has for it, else its own. -/
theorem Settings.modeKey?_of_isTruthy {settings : Settings} {mode : ModeTable} {value : Value}
    (hvalue : settings.get? mode.field = some value) (htruthy : value.isTruthy = true) :
    settings.modeKey? (some mode) = some (mode.keyFor value.keyText) := by
  simp [modeKey?, hvalue, htruthy]

namespace Descriptor

variable {descriptor : Descriptor} {mode : ModeTable} {field : Field}

/-- What the mode setting is read from is declared. -/
theorem IsCoherent.exists_modeField (h : descriptor.IsCoherent)
    (hmode : descriptor.mode = some mode) : ∃ field, descriptor.field? mode.field = some field := by
  refine Option.isSome_iff_exists.mp (h.isSome_field mode.field ?_)
  simp [referredFields, hmode]

/-- A listed value that the table does not have derives none of the keys in the table. -/
theorem IsCoherent.get?_ne_derived (h : descriptor.IsCoherent)
    (hmode : descriptor.mode = some mode) (hfield : descriptor.field? mode.field = some field)
    {values : List String} (hkind : field.kind = .choice values) {value : String}
    (hlisted : value ∈ values) (hmissing : mode.keys.get? value = none) (other : String) :
    mode.keys.get? other ≠ some (derivedModeKey value) := by
  intro hother
  have hvalues : descriptor.modeValues mode = values := by simp [modeValues, hfield, hkind]
  have hnone := h.modeCollision_eq_none mode hmode
  rw [modeCollision?, hvalues, List.findSome?_eq_none_iff] at hnone
  have hunmapped : value ∈ values.filter fun value => !mode.keys.contains value := by
    simp [hlisted, SortedMap.contains, hmissing]
  have hfind := hnone value hunmapped
  rw [Option.map_eq_none_iff, mappedFrom?, Option.map_eq_none_iff, List.find?_eq_none] at hfind
  have hne : other ≠ value := by
    rintro rfl
    rw [hmissing] at hother
    cases hother
  exact hfind (other, derivedModeKey value) (SortedMap.mem_entries_of_get? hother) (by simp [hne])

/-- A value that the table does not have selects a key of the table only as a number, and this
key is then the number. -/
theorem IsCoherent.keyFor_eq_iff (h : descriptor.IsCoherent) (hmode : descriptor.mode = some mode)
    (hfield : descriptor.field? mode.field = some field) {mapped unmapped : Value} {key : String}
    (hmapped : field.kind.admits mapped = true) (hunmapped : field.kind.admits unmapped = true)
    (hmappedSet : mapped.isTruthy = true) (hunmappedSet : unmapped.isTruthy = true)
    (hkey : mode.keys.get? mapped.keyText = some key)
    (hmissing : mode.keys.get? unmapped.keyText = none) :
    mode.keyFor unmapped.keyText = key ↔ ∃ least greatest number,
      field.kind = .int least greatest ∧ unmapped = .int number ∧ key = toString number := by
  have hderived : mode.keyFor unmapped.keyText = derivedModeKey unmapped.keyText := by
    rw [ModeTable.keyFor, hmissing, Option.getD_none]
  rw [hderived]
  cases hkind : field.kind with
  | choice values =>
    rw [hkind, FieldKind.admits, List.contains_iff_mem] at hunmapped
    constructor
    · rintro rfl
      exact absurd hkey (h.get?_ne_derived hmode hfield hkind hunmapped hmissing mapped.keyText)
    · rintro ⟨least, greatest, number, hint, -⟩
      cases hint
  | int least greatest =>
    cases unmapped with
    | text content => simp [hkind, FieldKind.admits] at hunmapped
    | bool flag => simp [hkind, FieldKind.admits] at hunmapped
    | int number =>
      rw [Value.keyText, derivedModeKey_toString]
      constructor
      · rintro rfl
        exact ⟨least, greatest, number, rfl, rfl, rfl⟩
      · rintro ⟨_, _, other, -, hother, rfl⟩
        cases hother
        rfl
  | flag =>
    -- `true` is the only flag that counts as set, and it is in the table or not
    have htrue {value : Value} (hadmits : field.kind.admits value = true)
        (hset : value.isTruthy = true) : value = .bool true := by
      rw [hkind] at hadmits
      cases value with
      | text content => cases hadmits
      | int number => cases hadmits
      | bool flag => rw [show flag = true from hset]
    rw [htrue hunmapped hunmappedSet, ← htrue hmapped hmappedSet, hkey] at hmissing
    cases hmissing

end Descriptor

/-! ## Accepted descriptions -/

namespace Device

/-- In a description that is accepted, the mode setting is declared. A value of it that the table
has and one that it does not have select different mode keys, unless the setting is a number, the
second value is some number, and the table gives this number as the key of the first. -/
theorem mode_keys_apart {text : String} {device : Device} {descriptor : Descriptor}
    {mode : ModeTable} (hdevice : parse text = .ok device)
    (hdescriptor : descriptor ∈ device.peripherals) (hmode : descriptor.mode = some mode) :
    ∃ field, descriptor.field? mode.field = some field ∧
      ∀ (mapped unmapped : Value) (key : String) (first second : Settings),
        field.kind.admits mapped = true → field.kind.admits unmapped = true →
        mapped.isTruthy = true → unmapped.isTruthy = true →
        mode.keys.get? mapped.keyText = some key → mode.keys.get? unmapped.keyText = none →
        first.get? mode.field = some mapped → second.get? mode.field = some unmapped →
        first.modeKey? descriptor.mode = some key ∧
        ∃ other, second.modeKey? descriptor.mode = some other ∧
          (other = key ↔ ∃ least greatest number, field.kind = .int least greatest ∧
            unmapped = .int number ∧ key = toString number) := by
  have hcoherent := (isCoherent_of_parse hdevice).isCoherent descriptor hdescriptor
  obtain ⟨field, hfield⟩ := hcoherent.exists_modeField hmode
  refine ⟨field, hfield, ?_⟩
  intro mapped unmapped key first second hmapped hunmapped hmappedSet hunmappedSet hkey hmissing
    hfirst hsecond
  rw [hmode]
  refine ⟨?_, mode.keyFor unmapped.keyText, second.modeKey?_of_isTruthy hsecond hunmappedSet, ?_⟩
  · rw [first.modeKey?_of_isTruthy hfirst hmappedSet, ModeTable.keyFor, hkey, Option.getD_some]
  · exact hcoherent.keyFor_eq_iff hmode hfield hmapped hunmapped hmappedSet hunmappedSet hkey
      hmissing

/-- A description of a watchdog that has a number as its mode setting, with a table entry. -/
def numberedText : String :=
  "<device name='m'><peripheral id='wdt' kind='global'>" ++
  "<field key='n' kind='int' min='1' max='3' scope='peripheral' default='1'/>" ++
  "<mode field='n'><map from='1' to='2'/></mode>" ++
  "<templates scope='peripheral' key='2'><line>A;</line></templates>" ++
  "</peripheral></device>"

/-- The mode table of this watchdog. -/
def numberedMode : ModeTable := ⟨"n", SortedMap.ofList [("1", "2")]⟩

/-- This watchdog. -/
def numberedDescriptor : Descriptor :=
  { id := .watchdog, name := "wdt", footprint := .global, needsAllPins := false, signals := []
    fields := [⟨"n", "n", .int 1 3, .peripheral, .int 1, none⟩], mode := some numberedMode
    tables := ∅, signature := .plain "wdt_init", interrupts := []
    templates := [⟨.peripheral, "2", none, none, [], [.ofSegments [.literal "A;"]]⟩] }

/-- The device that has nothing but this watchdog. -/
def numberedDevice : Device := ⟨"m", none, [numberedDescriptor], []⟩

/-- The description is accepted. -/
theorem parse_numberedText : parse numberedText = .ok numberedDevice := by decide +kernel

/-- With `1` in the table and `3` not, the two numbers select different mode keys. -/
theorem mode_keys_apart_numbered :
    parse numberedText = .ok numberedDevice ∧ numberedDescriptor ∈ numberedDevice.peripherals ∧
      Settings.modeKey? (SortedMap.ofList [("n", .int 1)]) numberedDescriptor.mode = some "2" ∧
      ∃ other, other ≠ "2" ∧
        Settings.modeKey? (SortedMap.ofList [("n", .int 3)]) numberedDescriptor.mode =
          some other := by
  have hmem : numberedDescriptor ∈ numberedDevice.peripherals := List.mem_singleton_self _
  obtain ⟨field, hfield, hkeys⟩ := mode_keys_apart parse_numberedText hmem rfl
  obtain rfl : (⟨"n", "n", .int 1 3, .peripheral, .int 1, none⟩ : Field) = field :=
    Option.some.inj hfield
  obtain ⟨hfirst, other, hother, hiff⟩ := hkeys (.int 1) (.int 3) "2"
    (SortedMap.ofList [("n", .int 1)]) (SortedMap.ofList [("n", .int 3)]) (by decide) (by decide)
    (by decide) (by decide) (by decide) (by decide) (by decide) (by decide)
  refine ⟨parse_numberedText, hmem, hfirst, other, ?_, hother⟩
  intro hsame
  obtain ⟨_, _, number, -, hnumber, hkey⟩ := hiff.mp hsame
  cases hnumber
  exact absurd hkey (by decide)

/-- The numbers `1` and `2` select the same mode key, the one through the table and the other by
itself, although the description is accepted and the field admits both. -/
theorem numbers_share_mode_key :
    parse numberedText = .ok numberedDevice ∧ numberedDescriptor ∈ numberedDevice.peripherals ∧
      numberedDescriptor.mode = some numberedMode ∧
      ∃ field, numberedDescriptor.field? numberedMode.field = some field ∧
        field.kind.admits (.int 1) = true ∧ field.kind.admits (.int 2) = true ∧
        Value.isTruthy (.int 1) = true ∧ Value.isTruthy (.int 2) = true ∧
        numberedMode.keys.get? (Value.int 1).keyText = some "2" ∧
        numberedMode.keys.get? (Value.int 2).keyText = none ∧
        Settings.modeKey? (SortedMap.ofList [("n", .int 1)]) numberedDescriptor.mode =
          Settings.modeKey? (SortedMap.ofList [("n", .int 2)]) numberedDescriptor.mode := by
  refine ⟨parse_numberedText, List.mem_singleton_self _, rfl, _, rfl, ?_⟩
  decide

end Device

end AvrSetup
