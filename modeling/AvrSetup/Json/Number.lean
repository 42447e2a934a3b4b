import AvrSetup.Json.Basic

/-!
# The binary value of a decimal number

A JSON number stands for a floating-point number of 53 significant bits: its mantissa is
rounded, multiplied or divided by a power of ten, and rounded again, each time to the
nearest such number and from the middle to the even one. Powers of ten beyond the 308th
are infinite, so that a number with more decimal places is divided twice; a quotient
nearer to zero than to the least positive number is zero. Only integers matter to a
configuration, so this file asks whether that binary value is an integer, and which.
-/

namespace AvrSetup.JsonNumber

/-- The number of significant bits of a floating-point number. -/
def precision : Nat := 53

/-- The greatest power of ten that is not infinite. -/
def greatestPower : Nat := 308

/-- Divide and round to the nearest integer, from the middle to the even one. -/
def divideToNearest (value unit : Nat) : Nat :=
  let quotient := value / unit
  let doubled := 2 * (value % unit)
  if doubled < unit then quotient
  else if doubled > unit then quotient + 1
  else quotient + quotient % 2

/-- Round a natural number to the precision. -/
def roundToPrecision (value : Nat) : Nat :=
  let unit := Nat.pow 2 (value.log2 + 1 - precision)
  divideToNearest value unit * unit

/-- A number with finitely many binary places. -/
structure BinaryFraction where
  /-- The number, counted in units of its last place. -/
  units : Nat
  /-- How many places there are behind the point. -/
  places : Nat
  deriving DecidableEq, Repr

/-- The integer that a number with binary places is, if it is one. -/
def BinaryFraction.integer? (fraction : BinaryFraction) : Option Nat :=
  let unit := Nat.pow 2 fraction.places
  if fraction.units % unit = 0 then some (fraction.units / unit) else none

/-- The quotient of two natural numbers, rounded to the precision. Extra places keep the bits
that rounding looks at. -/
def roundedQuotient (value divisor : Nat) : BinaryFraction :=
  let places := precision + 2 + divisor.log2
  let scaled := value * Nat.pow 2 places
  let odd := if scaled % divisor = 0 then 0 else 1
  ⟨roundToPrecision (2 * (scaled / divisor) + odd), places + 1⟩

/-- The number of binary places of the least positive floating-point number. -/
def leastPlaces : Nat := 1074

/-- Whether a quotient is rounded to zero: it is at most half of the least positive number, and
zero is even. -/
def BinaryFraction.vanishesOver (fraction : BinaryFraction) (divisor : Nat) : Bool :=
  fraction.units * Nat.pow 2 (leastPlaces + 1) ≤ divisor * Nat.pow 2 fraction.places

/-- A power of ten rounded to the precision, unless it is infinite. -/
def powerOfTen? (exponent : Nat) : Option Nat :=
  if exponent ≤ greatestPower then some (roundToPrecision (Nat.pow 10 exponent)) else none

/-- The quotient of a mantissa by a power of ten, if it is an integer. An infinite power is
divided by in two steps, by its excess over the greatest finite power and then by that. What
two divisions leave is less than one, and so it is zero or no integer. -/
def quotient? (mantissa places : Nat) : Option Nat :=
  match powerOfTen? places, powerOfTen? (places - greatestPower) with
  | some power, _ => (roundedQuotient mantissa power).integer?
  | none, some excess =>
    if (roundedQuotient mantissa excess).vanishesOver (roundToPrecision (Nat.pow 10 greatestPower))
    then some 0 else none
  | none, none => some 0

/-- The size of the binary value, if it is a finite integer. -/
def magnitude? (number : JsonNumber) : Option Nat :=
  let mantissa := roundToPrecision number.mantissa
  let places := number.exponent.natAbs
  if 0 ≤ number.exponent then
    (powerOfTen? places).map fun power => roundToPrecision (mantissa * power)
  else quotient? mantissa places

/-- The greatest size of a value that counts as an integer of 64 bits. -/
def sizeLimit : Nat := Nat.pow 2 63

/-- The integer of 64 bits that a number stands for. A value just beyond the greatest
such integer is taken to it. -/
def toInt64? (number : JsonNumber) : Option Int :=
  match number.magnitude? with
  | none => none
  | some size =>
    if sizeLimit < size then none
    else if number.negative then some (-(size : Int))
    else some (min size (sizeLimit - 1) : Nat)

/-- The number that an integer is written as. -/
def ofInt (value : Int) : JsonNumber := ⟨decide (value < 0), value.natAbs, 0⟩

end AvrSetup.JsonNumber
