import AvrSetup.Json.Number
import Mathlib.Algebra.Order.Field.Power
import Mathlib.Algebra.Order.Ring.Rat
import Mathlib.Data.Rat.Cast.Order
import Mathlib.Tactic.NormNum

/-!
# Integers that are read exactly

A decimal number is rounded up to three times on its way to an integer of 64 bits: its mantissa,
the power of ten, and what comes out. None of this changes anything if the digits fit into the
precision and the number is an integer of at most as many bits (`JsonNumber.standsFor_of_fits`),
whether it is written with an exponent, with decimal places or plainly. A number that is not
rounded off its integer is read as this integer (`JsonNumber.StandsFor.toInt64?_eq_some`).
-/

namespace AvrSetup.JsonNumber

/-- The decimal number that is written. -/
def value (number : JsonNumber) : ℚ :=
  (if number.negative then -1 else 1) * (number.mantissa * 10 ^ number.exponent)

/-- A natural number has no more significant bits than the precision. -/
def Fits (value : Nat) : Prop :=
  ∃ significand places, significand < 2 ^ precision ∧ value = significand * 2 ^ places

/-- A number stands for an integer: it is this integer, in whatever way it is written, and its
binary value is not rounded off it. -/
structure StandsFor (number : JsonNumber) (integer : Int) : Prop where
  /-- The decimal number is the integer. -/
  value_eq : number.value = integer
  /-- The binary value is the integer, too. -/
  magnitude?_eq : number.magnitude? = some integer.natAbs

/-! ## Rounding -/

theorem fits_of_le {value : Nat} (h : value ≤ 2 ^ precision) : Fits value := by
  rcases Nat.lt_or_eq_of_le h with hlt | rfl
  · exact ⟨value, 0, hlt, by rw [pow_zero, mul_one]⟩
  · exact ⟨1, precision, by decide, (one_mul _).symm⟩

theorem Fits.mul_two_pow {value : Nat} (h : Fits value) (places : Nat) :
    Fits (value * 2 ^ places) := by
  obtain ⟨significand, own, hlt, rfl⟩ := h
  exact ⟨significand, own + places, hlt, by rw [pow_add, mul_assoc]⟩

/-- The unit that a number is rounded to divides it if the number fits. -/
theorem Fits.unit_dvd {value : Nat} (h : Fits value) (hpos : value ≠ 0) :
    2 ^ (value.log2 + 1 - precision) ∣ value := by
  obtain ⟨significand, places, hlt, heq⟩ := h
  have hlow : 2 ^ value.log2 ≤ value := Nat.log2_self_le hpos
  have hhigh : value < 2 ^ (precision + places) := by
    rw [heq, pow_add]
    exact Nat.mul_lt_mul_of_pos_right hlt (Nat.two_pow_pos places)
  have hbits : value.log2 < precision + places :=
    (Nat.pow_lt_pow_iff_right (by decide)).mp (lt_of_le_of_lt hlow hhigh)
  have hunit : value.log2 + 1 - precision ≤ places := by omega
  rw [heq] at hunit ⊢
  exact Dvd.dvd.mul_left (Nat.pow_dvd_pow 2 hunit) significand

/-- A number that fits is not rounded. -/
theorem roundToPrecision_of_fits {value : Nat} (h : Fits value) :
    roundToPrecision value = value := by
  by_cases hpos : value = 0
  · subst hpos
    decide
  · have hdvd := h.unit_dvd hpos
    have hunit : 0 < 2 ^ (value.log2 + 1 - precision) := Nat.two_pow_pos _
    simp only [roundToPrecision, divideToNearest, Nat.pow_eq, Nat.mod_eq_zero_of_dvd hdvd, mul_zero,
      if_pos hunit]
    exact Nat.div_mul_cancel hdvd

/-- The powers of ten are exact as long as the powers of five fit. -/
theorem powerOfTen?_eq_some {places : Nat} (h : 5 ^ places ≤ 2 ^ precision) :
    powerOfTen? places = some (10 ^ places) := by
  have hlt : places < 23 :=
    (Nat.pow_lt_pow_iff_right (by decide)).mp (lt_of_le_of_lt h (by norm_num [precision]))
  have hfinite : places ≤ greatestPower := by
    unfold greatestPower
    omega
  have hfits : Fits (10 ^ places) := by
    have hsplit : 10 ^ places = 5 ^ places * 2 ^ places := Nat.mul_pow 5 2 places
    rw [hsplit]
    exact (fits_of_le h).mul_two_pow places
  rw [powerOfTen?, if_pos hfinite, Nat.pow_eq, roundToPrecision_of_fits hfits]

/-! ## Products and quotients -/

/-- A quotient that comes out even and fits is exact. -/
theorem integer?_roundedQuotient {size divisor : Nat} (hdivisor : 0 < divisor)
    (hsize : Fits size) : (roundedQuotient (size * divisor) divisor).integer? = some size := by
  have hscaled (places : Nat) : size * divisor * 2 ^ places = size * 2 ^ places * divisor :=
    mul_right_comm _ _ _
  have hround (places : Nat) : roundToPrecision (2 * (size * 2 ^ places)) =
      size * 2 ^ (places + 1) := by
    have hdouble : 2 * (size * 2 ^ places) = size * 2 ^ (places + 1) := by
      rw [pow_succ, mul_left_comm, mul_comm 2]
    rw [hdouble, roundToPrecision_of_fits (hsize.mul_two_pow _)]
  simp only [roundedQuotient, BinaryFraction.integer?, Nat.pow_eq, hscaled, Nat.mul_mod_left,
    Nat.mul_div_cancel _ hdivisor, if_true, add_zero, hround,
    Nat.mul_div_cancel _ (Nat.two_pow_pos _)]

/-- Zero over anything is zero. -/
theorem quotient?_zero (places : Nat) : quotient? 0 places = some 0 := by
  unfold quotient?
  split
  · simp [roundedQuotient, BinaryFraction.integer?, roundToPrecision, divideToNearest]
  · simp [roundedQuotient, BinaryFraction.vanishesOver, roundToPrecision, divideToNearest]
  · rfl

/-- Decimal places that are all zero do not matter. -/
theorem quotient?_mul_ten_pow {size places : Nat} (hsize : Fits size)
    (hfits : Fits (size * 10 ^ places)) : quotient? (size * 10 ^ places) places = some size := by
  by_cases hzero : size = 0
  · rw [hzero, Nat.zero_mul]
    exact quotient?_zero places
  · -- The significand takes up the powers of five, so that there are few of them.
    obtain ⟨significand, shift, hlt, heq⟩ := hfits
    have hdvd : 5 ^ places ∣ significand * 2 ^ shift := by
      rw [← heq]
      exact Dvd.dvd.mul_left (pow_dvd_pow_of_dvd (by decide) places) size
    have hcoprime : Nat.Coprime (5 ^ places) (2 ^ shift) :=
      Nat.Coprime.pow places shift (by decide)
    have hsignificand : 0 < significand := by
      refine Nat.pos_of_ne_zero fun hnone => hzero ?_
      rw [hnone, Nat.zero_mul] at heq
      exact (Nat.mul_eq_zero.mp heq).resolve_right (by positivity)
    have hfive : 5 ^ places ≤ 2 ^ precision :=
      (Nat.le_of_dvd hsignificand (hcoprime.dvd_of_dvd_mul_right hdvd)).trans hlt.le
    rw [quotient?, powerOfTen?_eq_some hfive]
    exact integer?_roundedQuotient (by positivity) hsize

/-- A product that is small enough is exact. -/
theorem powerOfTen?_mul {mantissa places : Nat} (hplaces : places ≤ greatestPower)
    (hsize : mantissa * 10 ^ places ≤ 2 ^ precision) :
    (powerOfTen? places).map (fun power => roundToPrecision (mantissa * power)) =
      some (mantissa * 10 ^ places) := by
  by_cases hzero : mantissa = 0
  · rw [powerOfTen?, if_pos hplaces, hzero]
    simp [roundToPrecision, divideToNearest]
  · have hfive : 5 ^ places ≤ 2 ^ precision :=
      calc 5 ^ places ≤ 10 ^ places := Nat.pow_le_pow_left (by decide) places
        _ ≤ mantissa * 10 ^ places := Nat.le_mul_of_pos_left _ (Nat.pos_of_ne_zero hzero)
        _ ≤ 2 ^ precision := hsize
    rw [powerOfTen?_eq_some hfive, Option.map_some, roundToPrecision_of_fits (fits_of_le hsize)]

/-! ## Numbers that stand for integers -/

theorem abs_value (number : JsonNumber) :
    |number.value| = number.mantissa * 10 ^ number.exponent := by
  have hsign : |(if number.negative then -1 else 1 : ℚ)| = 1 := by split <;> simp
  have hsize : (0 : ℚ) ≤ number.mantissa * 10 ^ number.exponent := by positivity
  rw [value, abs_mul, hsign, one_mul, abs_of_nonneg hsize]

section

variable {number : JsonNumber} {integer : Int}

/-- The mantissa and the size of the integer differ by powers of ten. -/
theorem mantissa_mul (hvalue : number.value = integer) :
    number.mantissa * 10 ^ number.exponent.toNat =
      integer.natAbs * 10 ^ (-number.exponent).toNat := by
  have habs : (number.mantissa : ℚ) * 10 ^ number.exponent = integer.natAbs := by
    rw [← abs_value, hvalue, Nat.cast_natAbs, Int.cast_abs]
  have hexponent : number.exponent = (number.exponent.toNat : Int) - (-number.exponent).toNat :=
    (Int.toNat_sub_toNat_neg _).symm
  rw [hexponent, zpow_sub₀ (by norm_num), zpow_natCast, zpow_natCast, ← mul_div_assoc,
    div_eq_iff (by positivity)] at habs
  exact_mod_cast habs

/-- Nothing is rounded if the digits and the integer fit. -/
theorem standsFor_of_fits (hvalue : number.value = integer) (hfits : Fits number.mantissa)
    (hexponent : number.exponent ≤ greatestPower) (hsize : integer.natAbs ≤ 2 ^ precision) :
    number.StandsFor integer where
  value_eq := hvalue
  magnitude?_eq := by
    have hmul := mantissa_mul hvalue
    simp only [magnitude?, roundToPrecision_of_fits hfits]
    split
    · next hpositive =>
      have hplaces : number.exponent.toNat = number.exponent.natAbs := by omega
      have hnone : (-number.exponent).toNat = 0 := by omega
      rw [hplaces, hnone, pow_zero, mul_one] at hmul
      rw [← hmul] at hsize ⊢
      exact powerOfTen?_mul (by omega) hsize
    · next hnegative =>
      have hplaces : (-number.exponent).toNat = number.exponent.natAbs := by omega
      have hnone : number.exponent.toNat = 0 := by omega
      rw [hplaces, hnone, pow_zero, mul_one] at hmul
      rw [hmul] at hfits ⊢
      exact quotient?_mul_ten_pow (fits_of_le hsize) hfits

/-- The sign is that of the integer, but zero may have either. -/
theorem sign_of_value (hvalue : number.value = integer) :
    if number.negative then integer ≤ 0 else 0 ≤ integer := by
  have hsize : (0 : ℚ) ≤ number.mantissa * 10 ^ number.exponent := by positivity
  unfold value at hvalue
  split
  · next hnegative =>
    rw [if_pos hnegative, neg_one_mul] at hvalue
    have hle : (integer : ℚ) ≤ 0 := by
      rw [← hvalue]
      exact neg_nonpos.mpr hsize
    exact_mod_cast hle
  · next hpositive =>
    rw [if_neg hpositive, one_mul] at hvalue
    have hle : (0 : ℚ) ≤ integer := by
      rw [← hvalue]
      exact hsize
    exact_mod_cast hle

/-- An integer of few enough bits is read as itself. -/
theorem StandsFor.toInt64?_eq_some (h : number.StandsFor integer)
    (hsize : integer.natAbs ≤ 2 ^ precision) : number.toInt64? = some integer := by
  have hlimit : integer.natAbs < sizeLimit := lt_of_le_of_lt hsize (by decide)
  have hsign := sign_of_value h.value_eq
  simp only [toInt64?, h.magnitude?_eq, if_neg (Nat.not_lt.mpr hlimit.le)]
  split
  · next hnegative =>
    rw [if_pos hnegative] at hsign
    congr 1
    omega
  · next hpositive =>
    rw [if_neg hpositive] at hsign
    congr 1
    omega

end

/-- The plain digits of an integer stand for it. -/
theorem standsFor_ofInt {integer : Int} (hsize : integer.natAbs ≤ 2 ^ precision) :
    (ofInt integer).StandsFor integer := by
  have hvalue : (ofInt integer).value = integer := by
    have hcast : ((integer.natAbs : ℕ) : ℚ) = |(integer : ℚ)| := by
      rw [Nat.cast_natAbs, Int.cast_abs]
    unfold value ofInt
    rw [zpow_zero, mul_one, hcast]
    by_cases hnegative : integer < 0
    · have hneg : (integer : ℚ) < 0 := by exact_mod_cast hnegative
      simp [hnegative, abs_of_neg hneg]
    · have hpos : (0 : ℚ) ≤ integer := by exact_mod_cast Int.not_lt.mp hnegative
      simp [hnegative, abs_of_nonneg hpos]
  exact standsFor_of_fits hvalue (fits_of_le hsize) (Int.natCast_nonneg greatestPower) hsize

end AvrSetup.JsonNumber
