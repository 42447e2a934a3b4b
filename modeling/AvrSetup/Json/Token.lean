import AvrSetup.Json.Basic

/-!
# The words of a JSON text

A JSON text is a sequence of brackets, commas, colons and scalars, with blanks between
them. This file reads them off the text (`JsonToken.scan`). Numbers are read digit by
digit into a mantissa of 64 bits; what does not fit moves into the exponent or is dropped.
-/

namespace AvrSetup

/-- Why a text is not JSON. -/
inductive JsonFailure where
  /-- The text ends inside a value. -/
  | unexpectedEnd
  /-- A character stands where none like it may. -/
  | unexpectedCharacter (c : Char)
  /-- A word or bracket stands where none like it may. -/
  | misplaced
  /-- An escape names half of a character. -/
  | loneSurrogate
  /-- Arrays and objects are nested too deep. -/
  | tooDeep
  deriving DecidableEq, Repr

/-- What is wrong with a text that is not JSON. -/
def JsonFailure.message : JsonFailure → String
  | unexpectedEnd => "unexpected end of text"
  | unexpectedCharacter c => "unexpected character " ++ c.toString
  | misplaced => "misplaced value"
  | loneSurrogate => "escape of a lone surrogate"
  | tooDeep => "nested too deep"

/-- A word of a JSON text. -/
inductive JsonToken where
  /-- The start of an array. -/
  | openArray
  /-- The end of an array. -/
  | closeArray
  /-- The start of an object. -/
  | openObject
  /-- The end of an object. -/
  | closeObject
  /-- A comma. -/
  | comma
  /-- A colon. -/
  | colon
  /-- A string. -/
  | string (content : String)
  /-- A number, a truth value or `null`. -/
  | scalar (value : Json)

namespace JsonToken

/-- Whether a character is skipped between words. -/
def isBlank (c : Char) : Bool := c == ' ' || (9 ≤ c.toNat && c.toNat ≤ 13)

/-! ## Strings -/

/-- A unit of a string: a character, or the number in a four-digit escape. -/
inductive StringUnit where
  /-- A character that stands for itself or follows a backslash. -/
  | char (c : Char)
  /-- The number in an escape of four hexadecimal digits. -/
  | code (value : Nat)

/-- The value of a hexadecimal digit. -/
def hexValue? (c : Char) : Option Nat :=
  if c.isDigit then some (c.toNat - '0'.toNat)
  else if 'a' ≤ c ∧ c ≤ 'f' then some (c.toNat - 'a'.toNat + 10)
  else if 'A' ≤ c ∧ c ≤ 'F' then some (c.toNat - 'A'.toNat + 10)
  else none

/-- The value of four hexadecimal digits. -/
def codeOf? (a b c d : Char) : Option Nat := do
  return (((← hexValue? a) * 16 + (← hexValue? b)) * 16 + (← hexValue? c)) * 16 + (← hexValue? d)

/-- The character that a single letter behind a backslash stands for. -/
def escape? : Char → Option Char
  | '"' => some '"'
  | '\\' => some '\\'
  | '/' => some '/'
  | 'b' => some '\x08'
  | 'f' => some '\x0c'
  | 'n' => some '\n'
  | 'r' => some '\r'
  | 't' => some '\t'
  | _ => none

/-- The units of a string up to its closing quote, and the text behind it. -/
def stringUnits : List Char → Except JsonFailure (List StringUnit × List Char)
  | [] => .error .unexpectedEnd
  | '"' :: rest => .ok ([], rest)
  | '\\' :: 'u' :: a :: b :: c :: d :: rest =>
    match codeOf? a b c d with
    | none => .error (.unexpectedCharacter 'u')
    | some value => (stringUnits rest).map fun (units, rest) => (.code value :: units, rest)
  | '\\' :: e :: rest =>
    match escape? e with
    | none => .error (.unexpectedCharacter e)
    | some c => (stringUnits rest).map fun (units, rest) => (.char c :: units, rest)
  | c :: rest =>
    if c.toNat < 0x20 ∨ c = '\\' then .error (.unexpectedCharacter c)
    else (stringUnits rest).map fun (units, rest) => (.char c :: units, rest)

/-- Reading a string consumes at least its closing quote. -/
theorem stringUnits_shorter {text : List Char} {units : List StringUnit} {rest : List Char}
    (h : stringUnits text = .ok (units, rest)) : rest.length < text.length := by
  fun_induction stringUnits text generalizing units rest with
  | case1 => cases h
  | case2 => cases h; simp
  | case3 => cases h
  | case4 a b c d tail value hvalue ih =>
    cases hread : stringUnits tail with
    | error failure => simp [hread, Except.map] at h
    | ok result =>
      simp only [hread, Except.map, Except.ok.injEq, Prod.mk.injEq] at h
      have := ih hread
      simp only [List.length_cons, ← h.2]
      omega
  | case5 => cases h
  | case6 e tail hu c hc ih =>
    cases hread : stringUnits tail with
    | error failure => simp [hread, Except.map] at h
    | ok result =>
      simp only [hread, Except.map, Except.ok.injEq, Prod.mk.injEq] at h
      have := ih hread
      simp only [List.length_cons, ← h.2]
      omega
  | case7 => cases h
  | case8 c tail h1 h2 h3 hc ih =>
    cases hread : stringUnits tail with
    | error failure => simp [hread, Except.map] at h
    | ok result =>
      simp only [hread, Except.map, Except.ok.injEq, Prod.mk.injEq] at h
      have := ih hread
      simp only [List.length_cons, ← h.2]
      omega

/-- Join the units of a string. Two escapes for the halves of one character make that
character, and a half by itself is refused. -/
def joinUnits : List StringUnit → Except JsonFailure (List Char)
  | [] => .ok []
  | .char c :: rest => (joinUnits rest).map (c :: ·)
  | .code high :: .code low :: rest =>
    if 0xD800 ≤ high ∧ high < 0xDC00 ∧ 0xDC00 ≤ low ∧ low < 0xE000 then
      (joinUnits rest).map (Char.ofNat (0x10000 + (high - 0xD800) * 0x400 + (low - 0xDC00)) :: ·)
    else if 0xD800 ≤ high ∧ high < 0xE000 then .error .loneSurrogate
    else (joinUnits (.code low :: rest)).map (Char.ofNat high :: ·)
  | .code value :: rest =>
    if 0xD800 ≤ value ∧ value < 0xE000 then .error .loneSurrogate
    else (joinUnits rest).map (Char.ofNat value :: ·)

/-! ## Numbers -/

/-- The first number that a mantissa cannot hold. -/
def mantissaLimit : Nat := Nat.pow 2 64

/-- The greatest exponent. -/
def exponentLimit : Int := 32767

/-- Take one more digit before the decimal point. -/
def takeDigit (number : JsonNumber) (digit : Char) : JsonNumber :=
  let mantissa := number.mantissa * 10 + (digit.toNat - '0'.toNat)
  if mantissa < mantissaLimit then { number with mantissa }
  else { number with exponent := number.exponent + 1 }

/-- Take one more digit behind the decimal point. -/
def takeDecimal (number : JsonNumber) (digit : Char) : JsonNumber :=
  let mantissa := number.mantissa * 10 + (digit.toNat - '0'.toNat)
  if mantissa < mantissaLimit then { number with mantissa, exponent := number.exponent - 1 }
  else number

/-- The digits at the start of a text, of which there has to be one. -/
def leadingDigits (text : List Char) : Except JsonFailure (List Char × List Char) :=
  match text with
  | [] => .error .unexpectedEnd
  | c :: rest =>
    if c.isDigit then .ok (c :: rest.takeWhile Char.isDigit, rest.dropWhile Char.isDigit)
    else .error (.unexpectedCharacter c)

/-- The digits before the decimal point: a zero alone, or digits that start with another. -/
def wholeDigits (text : List Char) : Except JsonFailure (List Char × List Char) :=
  match text with
  | '0' :: rest => .ok (['0'], rest)
  | _ => leadingDigits text

/-- The decimal places, if there are any, taken into a number. -/
def withDecimals (number : JsonNumber) (text : List Char) :
    Except JsonFailure (JsonNumber × List Char) :=
  match text with
  | '.' :: rest => do
    let (digits, rest) ← leadingDigits rest
    return (digits.foldl takeDecimal number, rest)
  | _ => .ok (number, text)

/-- The sign of an exponent: whether it is a minus, and the text behind it. -/
def exponentSign : List Char → Bool × List Char
  | '-' :: rest => (true, rest)
  | '+' :: rest => (false, rest)
  | text => (false, text)

/-- The sign and the digits of an exponent. An exponent beyond the limit counts as the
limit. -/
def exponentPart (text : List Char) : Except JsonFailure (Int × List Char) := do
  let (digits, rest) ← leadingDigits (exponentSign text).2
  let size := digits.foldl (fun size c => min exponentLimit (size * 10 + (c.toNat - '0'.toNat))) 0
  return (if (exponentSign text).1 then -size else size, rest)

/-- The exponent, if there is one, added to that of a number. -/
def withExponent (number : JsonNumber) (text : List Char) :
    Except JsonFailure (JsonNumber × List Char) :=
  match text with
  | c :: rest =>
    if c = 'e' ∨ c = 'E' then do
      let (exponent, rest) ← exponentPart rest
      let sum := number.exponent + exponent
      return ({ number with exponent := max (-exponentLimit - 1) (min exponentLimit sum) }, rest)
    else .ok (number, text)
  | [] => .ok (number, text)

/-- A number behind its sign. -/
def unsigned (negative : Bool) (text : List Char) :
    Except JsonFailure (JsonNumber × List Char) := do
  let (digits, rest) ← wholeDigits text
  let whole := digits.foldl takeDigit ⟨negative, 0, 0⟩
  if exponentLimit < whole.exponent then throw .tooDeep
  let (number, rest) ← withDecimals whole rest
  withExponent number rest

/-! ## Words -/

/-- One word at the start of a text that starts with no blank, and the text behind it. -/
def one (c : Char) (rest : List Char) : Except JsonFailure (JsonToken × List Char) :=
  match c, rest with
  | '[', rest => .ok (openArray, rest)
  | ']', rest => .ok (closeArray, rest)
  | '\x7b', rest => .ok (openObject, rest)
  | '\x7d', rest => .ok (closeObject, rest)
  | ',', rest => .ok (comma, rest)
  | ':', rest => .ok (colon, rest)
  | '"', rest => do
    let (units, rest) ← stringUnits rest
    return (string (.ofList (← joinUnits units)), rest)
  | 't', 'r' :: 'u' :: 'e' :: rest => .ok (scalar (.bool true), rest)
  | 'f', 'a' :: 'l' :: 's' :: 'e' :: rest => .ok (scalar (.bool false), rest)
  | 'n', 'u' :: 'l' :: 'l' :: rest => .ok (scalar .null, rest)
  | '-', rest => (unsigned true rest).map fun (number, rest) => (scalar (.number number), rest)
  | c, rest => (unsigned false (c :: rest)).map fun (number, rest) =>
    (scalar (.number number), rest)

/-! ## Progress

Every reading step leaves a shorter text, or at least none that is longer. -/

theorem leadingDigits_shorter {text digits rest : List Char}
    (h : leadingDigits text = .ok (digits, rest)) : rest.length < text.length := by
  cases text with
  | nil => cases h
  | cons c tail =>
    simp only [leadingDigits] at h
    split at h
    · cases h
      have := (List.dropWhile_suffix (l := tail) Char.isDigit).length_le
      simp only [List.length_cons]
      omega
    · cases h

theorem wholeDigits_shorter {text digits rest : List Char}
    (h : wholeDigits text = .ok (digits, rest)) : rest.length < text.length := by
  unfold wholeDigits at h
  split at h
  · cases h
    simp
  · exact leadingDigits_shorter h

theorem withDecimals_le {number result : JsonNumber} {text rest : List Char}
    (h : withDecimals number text = .ok (result, rest)) : rest.length ≤ text.length := by
  unfold withDecimals at h
  split at h
  · next tail =>
    cases hread : leadingDigits tail with
    | error failure => simp [hread, bind, Except.bind] at h
    | ok read =>
      simp only [hread, bind, Except.bind, pure, Except.pure, Except.ok.injEq, Prod.mk.injEq] at h
      have := leadingDigits_shorter hread
      simp only [List.length_cons, ← h.2]
      omega
  · cases h
    exact Nat.le_refl _

theorem exponentSign_le (text : List Char) : (exponentSign text).2.length ≤ text.length := by
  unfold exponentSign
  split <;> simp

theorem exponentPart_le {text rest : List Char} {value : Int}
    (h : exponentPart text = .ok (value, rest)) : rest.length ≤ text.length := by
  have hsign := exponentSign_le text
  cases hread : leadingDigits (exponentSign text).2 with
  | error failure => simp [exponentPart, hread, bind, Except.bind] at h
  | ok read =>
    simp only [exponentPart, hread, bind, Except.bind, pure, Except.pure, Except.ok.injEq,
      Prod.mk.injEq] at h
    have := leadingDigits_shorter hread
    rw [← h.2]
    omega

theorem withExponent_le {number result : JsonNumber} {text rest : List Char}
    (h : withExponent number text = .ok (result, rest)) : rest.length ≤ text.length := by
  unfold withExponent at h
  split at h
  · next c tail =>
    split at h
    · cases hread : exponentPart tail with
      | error failure => simp [hread, bind, Except.bind] at h
      | ok read =>
        simp only [hread, bind, Except.bind, pure, Except.pure, Except.ok.injEq,
          Prod.mk.injEq] at h
        have := exponentPart_le hread
        simp only [List.length_cons, ← h.2]
        omega
    · cases h
      exact Nat.le_refl _
  · cases h
    exact Nat.le_refl _

theorem unsigned_shorter {negative : Bool} {number : JsonNumber} {text rest : List Char}
    (h : unsigned negative text = .ok (number, rest)) : rest.length < text.length := by
  simp only [unsigned, bind, Except.bind] at h
  split at h
  · cases h
  · next hwhole =>
    split at h
    · cases h
    · split at h
      · cases h
      · next hdecimals =>
        have h1 := wholeDigits_shorter hwhole
        have h2 := withDecimals_le hdecimals
        have h3 := withExponent_le h
        omega

theorem one_le {c : Char} {text rest : List Char} {token : JsonToken}
    (h : one c text = .ok (token, rest)) : rest.length ≤ text.length := by
  have hnumber : ∀ {negative : Bool} {tail : List Char},
      (unsigned negative tail).map (fun (number, rest) => (scalar (.number number), rest)) =
        .ok (token, rest) → rest.length < tail.length := by
    intro negative tail h
    cases hread : unsigned negative tail with
    | error failure => simp [hread, Except.map] at h
    | ok read =>
      simp only [hread, Except.map, Except.ok.injEq, Prod.mk.injEq] at h
      exact h.2 ▸ unsigned_shorter hread
  unfold one at h
  split at h
  case h_7 =>
    cases hread : stringUnits text with
    | error failure => simp [hread, bind, Except.bind] at h
    | ok read =>
      cases hjoin : joinUnits read.1 with
      | error failure => simp [hread, hjoin, bind, Except.bind] at h
      | ok joined =>
        simp only [hread, hjoin, bind, Except.bind, pure, Except.pure, Except.ok.injEq,
          Prod.mk.injEq] at h
        exact h.2 ▸ Nat.le_of_lt (stringUnits_shorter hread)
  case h_11 => exact Nat.le_of_lt (hnumber h)
  case h_12 =>
    have := hnumber h
    simp only [List.length_cons] at this
    omega
  all_goals grind

/-- The words of a text. -/
def scan : List Char → Except JsonFailure (List JsonToken)
  | [] => .ok []
  | c :: rest =>
    if isBlank c then scan rest
    else match h : one c rest with
      | .error failure => .error failure
      | .ok (token, rest') =>
        have := one_le h
        (scan rest').map (token :: ·)
termination_by text => text.length

end JsonToken

end AvrSetup
