import AvrSetup.Proofs.Writing
import Mathlib.Tactic.FieldSimp
import Mathlib.Tactic.Linarith
import Mathlib.Tactic.Positivity
import Mathlib.Tactic.Ring

/-!
# What rounding does to numbers

A decimal number is read by way of a floating-point number, and so it may be read as an integer
that it is not. This file bounds the difference: each of the roundings on the way changes a size by
at most one part in `2 ^ 53`, and there are few of them (`JsonNumber.close_magnitude?`). A number
of few digits is either the integer that it is read as or is not read (`JsonNumber.toInt64?_eq_none`
and `JsonNumber.standsFor_of_fits`).
-/

namespace AvrSetup.JsonNumber

/-! ## Sizes that a few roundings lie between -/

/-- What is left of one when it is rounded down. -/
def roundedOne : ℚ := 1 - 1 / 2 ^ precision

theorem roundedOne_pos : 0 < roundedOne := by norm_num [roundedOne, precision]

theorem roundedOne_le_one : roundedOne ≤ 1 := by norm_num [roundedOne, precision]

/-- Two sizes have at most some roundings between them, in either direction. -/
structure Close (roundings : ℕ) (left right : ℚ) : Prop where
  /-- The first size is not too great. -/
  left_le : left * roundedOne ^ roundings ≤ right
  /-- The second size is not too great. -/
  right_le : right * roundedOne ^ roundings ≤ left

namespace Close

variable {n m : ℕ} {left middle right left' right' : ℚ}

/-- The roundings on both ways add up. -/
theorem trans (h : Close n left middle) (h' : Close m middle right) :
    Close (n + m) left right := by
  have hpos : 0 ≤ roundedOne := roundedOne_pos.le
  constructor
  · calc left * roundedOne ^ (n + m) = left * roundedOne ^ n * roundedOne ^ m := by
          rw [pow_add, mul_assoc]
      _ ≤ middle * roundedOne ^ m := mul_le_mul_of_nonneg_right h.left_le (pow_nonneg hpos m)
      _ ≤ right := h'.left_le
  · calc right * roundedOne ^ (n + m) = right * roundedOne ^ m * roundedOne ^ n := by
          rw [add_comm, pow_add, mul_assoc]
      _ ≤ middle * roundedOne ^ n := mul_le_mul_of_nonneg_right h'.right_le (pow_nonneg hpos n)
      _ ≤ left := h.right_le

/-- The roundings of both factors add up in their product. -/
theorem mul (h : Close n left right) (h' : Close m left' right') (hleft : 0 ≤ left)
    (hright : 0 ≤ right) (hleft' : 0 ≤ left') (hright' : 0 ≤ right') :
    Close (n + m) (left * left') (right * right') := by
  have hpow : 0 ≤ roundedOne ^ m := pow_nonneg roundedOne_pos.le m
  constructor
  · calc left * left' * roundedOne ^ (n + m) =
          left * roundedOne ^ n * (left' * roundedOne ^ m) := by rw [pow_add, mul_mul_mul_comm]
      _ ≤ right * right' := mul_le_mul h.left_le h'.left_le (mul_nonneg hleft' hpow) hright
  · calc right * right' * roundedOne ^ (n + m) =
          right * roundedOne ^ n * (right' * roundedOne ^ m) := by rw [pow_add, mul_mul_mul_comm]
      _ ≤ left * left' := mul_le_mul h.right_le h'.right_le (mul_nonneg hright' hpow) hleft

/-- There are as many roundings between the inverses as between the sizes. -/
theorem inv (h : Close n left right) (hleft : 0 < left) (hright : 0 < right) :
    Close n left⁻¹ right⁻¹ := by
  constructor
  · rw [inv_mul_le_iff₀ hleft, ← div_eq_mul_inv, le_div_iff₀ hright, mul_comm]
    exact h.right_le
  · rw [inv_mul_le_iff₀ hright, ← div_eq_mul_inv, le_div_iff₀ hleft, mul_comm]
    exact h.left_le

/-- More roundings may lie between sizes than do. -/
theorem mono (h : Close n left right) (hle : n ≤ m) (hleft : 0 ≤ left) (hright : 0 ≤ right) :
    Close m left right := by
  have hpow : roundedOne ^ m ≤ roundedOne ^ n :=
    pow_le_pow_of_le_one roundedOne_pos.le roundedOne_le_one hle
  exact ⟨(mul_le_mul_of_nonneg_left hpow hleft).trans h.left_le,
    (mul_le_mul_of_nonneg_left hpow hright).trans h.right_le⟩

/-- A size that is off by at most one part in `2 ^ 53` is one rounding apart. -/
theorem of_abs_sub_le (hright : 0 ≤ right) (h : |left - right| ≤ right / 2 ^ precision) :
    Close 1 left right := by
  obtain ⟨hlow, hhigh⟩ := abs_le.mp h
  have hunit : (0 : ℚ) ≤ 1 / 2 ^ precision := by positivity
  have hpart : right / 2 ^ precision = right * (1 / 2 ^ precision) := by ring
  rw [hpart] at hlow hhigh
  constructor
  · have hsquare : 0 ≤ right * (1 / 2 ^ precision) ^ 2 := by positivity
    have hscaled := mul_le_mul_of_nonneg_right (sub_le_iff_le_add.mp hhigh) roundedOne_pos.le
    rw [pow_one]
    unfold roundedOne at hscaled ⊢
    linarith
  · rw [pow_one]
    unfold roundedOne
    linarith

/-- Five roundings change a size by at most one part in `2 ^ 50`. -/
theorem abs_sub_le (h : Close 5 left right) (hright : 0 ≤ right) :
    |left - right| ≤ right / 2 ^ 50 := by
  have hlow : 1 - 1 / 2 ^ 50 ≤ roundedOne ^ 5 := by norm_num [roundedOne, precision]
  have hhigh : 1 ≤ (1 + 1 / 2 ^ 50) * roundedOne ^ 5 := by norm_num [roundedOne, precision]
  have hpow : 0 < roundedOne ^ 5 := pow_pos roundedOne_pos 5
  rw [abs_le]
  constructor
  · have hleft := (mul_le_mul_of_nonneg_left hlow hright).trans h.right_le
    linarith
  · have hscaled : left * roundedOne ^ 5 ≤ right * (1 + 1 / 2 ^ 50) * roundedOne ^ 5 := by
      have hgrown := mul_le_mul_of_nonneg_left hhigh hright
      linarith [h.left_le]
    have hleft := le_of_mul_le_mul_right hscaled hpow
    linarith

end Close

/-! ## One rounding -/

/-- A multiple of a unit that is nearest is at most half of a unit off. -/
theorem divideToNearest_mul_bounds {value unit : ℕ} (hunit : 0 < unit) :
    2 * (divideToNearest value unit * unit) ≤ 2 * value + unit ∧
      2 * value ≤ 2 * (divideToNearest value unit * unit) + unit := by
  have hsplit : unit * (value / unit) + value % unit = value := Nat.div_add_mod value unit
  have hmod : value % unit < unit := Nat.mod_lt value hunit
  have hproduct : value / unit * unit = unit * (value / unit) := Nat.mul_comm _ _
  unfold divideToNearest
  dsimp only
  split
  · omega
  · split
    · rw [Nat.add_mul, Nat.one_mul]
      omega
    · rcases Nat.mod_two_eq_zero_or_one (value / unit) with hparity | hparity
      · rw [hparity, Nat.add_zero]
        omega
      · rw [hparity, Nat.add_mul, Nat.one_mul]
        omega

/-- Rounding changes a number by at most one part in `2 ^ 53`. -/
theorem abs_roundToPrecision_sub_le (value : ℕ) :
    |(roundToPrecision value : ℚ) - value| ≤ value / 2 ^ precision := by
  rcases Nat.lt_or_ge (2 ^ precision) value with hgreat | hsmall
  · have hpos : value ≠ 0 := Nat.ne_zero_of_lt hgreat
    have hbits : precision ≤ value.log2 :=
      (Nat.le_log2 hpos).mpr hgreat.le
    have hsplit : 2 ^ value.log2 = 2 ^ (value.log2 + 1 - precision) * 2 ^ (precision - 1) := by
      rw [← pow_add]
      congr 1
      unfold precision at hbits ⊢
      omega
    have hvalue : 2 ^ value.log2 ≤ value := Nat.log2_self_le hpos
    obtain ⟨hhigh, hlow⟩ :=
      @divideToNearest_mul_bounds value (2 ^ (value.log2 + 1 - precision)) (Nat.two_pow_pos _)
    have hunit : (2 : ℚ) ^ (value.log2 + 1 - precision) ≤ 2 * (value / 2 ^ precision) := by
      rw [hsplit] at hvalue
      have hcast : (2 : ℚ) ^ (value.log2 + 1 - precision) * 2 ^ (precision - 1) ≤ value := by
        exact_mod_cast hvalue
      norm_num [precision] at hcast ⊢
      linarith
    have hhigh' : 2 * (roundToPrecision value : ℚ) ≤
        2 * value + 2 ^ (value.log2 + 1 - precision) := by exact_mod_cast hhigh
    have hlow' : 2 * (value : ℚ) ≤
        2 * roundToPrecision value + 2 ^ (value.log2 + 1 - precision) := by exact_mod_cast hlow
    rw [abs_le]
    constructor <;> linarith
  · rw [roundToPrecision_of_fits (fits_of_le hsmall), sub_self, abs_zero]
    positivity

theorem close_roundToPrecision (value : ℕ) : Close 1 (roundToPrecision value) value :=
  .of_abs_sub_le (Nat.cast_nonneg value) (abs_roundToPrecision_sub_le value)

/-! ## Quotients -/

/-- The number that a binary fraction is. -/
def BinaryFraction.value (fraction : BinaryFraction) : ℚ := fraction.units / 2 ^ fraction.places

/-- A binary fraction is taken for the integer that it is. -/
theorem BinaryFraction.integer?_eq_some_iff {fraction : BinaryFraction} {size : ℕ} :
    fraction.integer? = some size ↔ fraction.value = size := by
  have hunit : 0 < 2 ^ fraction.places := Nat.two_pow_pos _
  have hvalue : fraction.value = size ↔ fraction.units = size * 2 ^ fraction.places := by
    rw [value, div_eq_iff (by positivity)]
    exact_mod_cast Iff.rfl
  rw [hvalue]
  unfold integer?
  dsimp only
  rw [Nat.pow_eq]
  constructor
  · intro h
    split at h
    · next hmod =>
      cases h
      exact (Nat.div_mul_cancel (Nat.dvd_of_mod_eq_zero hmod)).symm
    · cases h
  · intro h
    rw [h, if_pos (Nat.mul_mod_left _ _), Nat.mul_div_cancel _ hunit]

/-- Before it is rounded, a quotient is off by next to nothing. -/
theorem exists_roundedQuotient_eq (value : ℕ) {divisor : ℕ} (hdivisor : 0 < divisor) :
    ∃ units places : ℕ, roundedQuotient value divisor = ⟨roundToPrecision units, places⟩ ∧
      |(units / 2 ^ places : ℚ) - value / divisor| ≤ 1 / (2 ^ (precision + 2) * divisor) ∧
        (value = 0 → units = 0) := by
  let scaled := value * 2 ^ (precision + 2 + divisor.log2)
  let odd := if scaled % divisor = 0 then 0 else 1
  refine ⟨2 * (scaled / divisor) + odd, precision + 2 + divisor.log2 + 1, rfl, ?_, ?_⟩
  · -- The last unit tells whether there is a remainder, and both are less than the divisor.
    have hsplit : divisor * (scaled / divisor) + scaled % divisor = scaled :=
      Nat.div_add_mod scaled divisor
    have hmod : scaled % divisor < divisor := Nat.mod_lt scaled hdivisor
    have hbounds : (2 * (scaled / divisor) + odd) * divisor ≤ 2 * scaled + divisor ∧
        2 * scaled ≤ (2 * (scaled / divisor) + odd) * divisor + divisor := by
      have hproduct : (2 * (scaled / divisor) + odd) * divisor =
          2 * (divisor * (scaled / divisor)) + odd * divisor := by ring
      rw [hproduct]
      by_cases hzero : scaled % divisor = 0
      · have hodd : odd = 0 := if_pos hzero
        rw [hodd, Nat.zero_mul]
        omega
      · have hodd : odd = 1 := if_neg hzero
        rw [hodd, Nat.one_mul]
        omega
    generalize 2 * (scaled / divisor) + odd = units at hbounds ⊢
    have hpos : (0 : ℚ) < divisor := Nat.cast_pos.mpr hdivisor
    have hbits : (divisor : ℚ) ≤ 2 ^ (divisor.log2 + 1) := by
      exact_mod_cast (@Nat.lt_log2_self divisor).le
    have hhigh : (units * divisor : ℚ) ≤
        2 * (value * 2 ^ (precision + 2 + divisor.log2)) + divisor := by
      exact_mod_cast hbounds.1
    have hlow : (2 * (value * 2 ^ (precision + 2 + divisor.log2)) : ℚ) ≤
        units * divisor + divisor := by exact_mod_cast hbounds.2
    have hpower : (2 : ℚ) ^ (precision + 2 + divisor.log2 + 1) =
        2 ^ (precision + 2) * 2 ^ (divisor.log2 + 1) := by rw [← pow_add, add_assoc]
    have hdifference : (units / 2 ^ (precision + 2 + divisor.log2 + 1) : ℚ) - value / divisor =
        (units * divisor - 2 * (value * 2 ^ (precision + 2 + divisor.log2))) /
          (2 ^ (precision + 2 + divisor.log2 + 1) * divisor) := by
      rw [pow_succ 2 (precision + 2 + divisor.log2)]
      field_simp
    have hdistance : |(units * divisor - 2 * (value * 2 ^ (precision + 2 + divisor.log2)) : ℚ)| ≤
        divisor := by
      rw [abs_le]
      constructor <;> linarith
    have hdenominator : (0 : ℚ) < 2 ^ (precision + 2 + divisor.log2 + 1) * divisor := by positivity
    rw [hdifference, abs_div, abs_of_pos hdenominator, div_le_div_iff₀ hdenominator (by positivity),
      one_mul, hpower]
    calc |(units * divisor - 2 * (value * 2 ^ (precision + 2 + divisor.log2)) : ℚ)| *
          (2 ^ (precision + 2) * divisor) ≤
        2 ^ (divisor.log2 + 1) * (2 ^ (precision + 2) * divisor) :=
          mul_le_mul_of_nonneg_right (hdistance.trans hbits) (by positivity)
      _ = 2 ^ (precision + 2) * 2 ^ (divisor.log2 + 1) * divisor := by ring
  · rintro rfl
    simp [scaled, odd]

/-- Two roundings lie between a quotient and what is made of it. -/
theorem close_roundedQuotient (value : ℕ) {divisor : ℕ} (hdivisor : 0 < divisor) :
    Close 2 (roundedQuotient value divisor).value (value / divisor) := by
  obtain ⟨units, places, heq, herror, hzero⟩ := exists_roundedQuotient_eq value hdivisor
  have hpos : (0 : ℚ) < divisor := Nat.cast_pos.mpr hdivisor
  have hrounded : Close 1 (roundedQuotient value divisor).value (units / 2 ^ places) := by
    have hpower : Close 0 (2 ^ places : ℚ)⁻¹ (2 ^ places : ℚ)⁻¹ := by
      constructor <;> rw [pow_zero, mul_one]
    rw [heq, BinaryFraction.value, div_eq_mul_inv, div_eq_mul_inv]
    exact (close_roundToPrecision units).mul hpower (by positivity) (by positivity) (by positivity)
      (by positivity)
  have hquotient : Close 1 (units / 2 ^ places : ℚ) (value / divisor) := by
    refine .of_abs_sub_le (by positivity) ?_
    rcases Nat.eq_zero_or_pos value with rfl | hvalue
    · rw [hzero rfl]
      simp
    · have hone : (1 : ℚ) ≤ value := by exact_mod_cast hvalue
      calc |(units / 2 ^ places : ℚ) - value / divisor| ≤ 1 / (2 ^ (precision + 2) * divisor) :=
            herror
        _ ≤ value / divisor / 2 ^ precision := by
            rw [div_div, div_le_div_iff₀ (by positivity) (by positivity)]
            calc 1 * (divisor * 2 ^ precision) ≤ (value * 2 ^ 2 : ℚ) * (divisor * 2 ^ precision) :=
                  mul_le_mul_of_nonneg_right (by linarith) (by positivity)
              _ = value * (2 ^ (precision + 2) * divisor) := by ring
  exact hrounded.trans hquotient

/-- A power of ten is finite and one rounding apart from what is made of it. -/
theorem close_powerOfTen? {places power : ℕ} (h : powerOfTen? places = some power) :
    places ≤ greatestPower ∧ 0 < power ∧ Close 1 (power : ℚ) (10 ^ places) := by
  unfold powerOfTen? at h
  split at h
  · next hplaces =>
    cases h
    have hclose := close_roundToPrecision (10 ^ places)
    rw [Nat.cast_pow, Nat.cast_ofNat] at hclose
    refine ⟨hplaces, ?_, hclose⟩
    have hpos : (0 : ℚ) < 10 ^ places * roundedOne ^ 1 :=
      mul_pos (by positivity) (pow_pos roundedOne_pos 1)
    exact_mod_cast hpos.trans_le hclose.right_le
  · cases h

/-- A number with more decimal places than the greatest finite power of ten has is zero or no
integer. -/
theorem eq_zero_of_quotient? {mantissa places size : ℕ} (hplaces : greatestPower < places)
    (h : quotient? mantissa places = some size) : size = 0 := by
  have hinfinite : powerOfTen? places = none := if_neg (Nat.not_le.mpr hplaces)
  unfold quotient? at h
  rw [hinfinite] at h
  split at h
  · next hfound => cases hfound
  · split at h
    · cases h
      rfl
    · cases h
  · cases h
    rfl

/-- Four roundings lie between the size of a number and that of its binary value. A number of very
many decimal places may also be zero. -/
theorem close_magnitude? {number : JsonNumber} {size : ℕ} (h : number.magnitude? = some size) :
    (size = 0 ∧ number.exponent < -greatestPower) ∨ Close 4 (size : ℚ) |number.value| := by
  have hmantissa := close_roundToPrecision number.mantissa
  rw [abs_value]
  simp only [magnitude?] at h
  split at h
  · next hpositive =>
    obtain ⟨power, hpower, rfl⟩ := Option.map_eq_some_iff.mp h
    obtain ⟨-, -, hten⟩ := close_powerOfTen? hpower
    have hexponent : (10 : ℚ) ^ number.exponent = 10 ^ number.exponent.natAbs := by
      rw [← zpow_natCast, Int.natAbs_of_nonneg hpositive]
    have hproduct := hmantissa.mul hten (by positivity) (by positivity) (by positivity)
      (by positivity)
    have hrounded := close_roundToPrecision (roundToPrecision number.mantissa * power)
    rw [Nat.cast_mul] at hrounded
    rw [hexponent]
    exact .inr ((hrounded.trans hproduct).mono (by decide) (by positivity) (by positivity))
  · next hnegative =>
    rcases Nat.lt_or_ge greatestPower number.exponent.natAbs with hmany | hfew
    · exact .inl ⟨eq_zero_of_quotient? hmany h, by omega⟩
    · have hsome : powerOfTen? number.exponent.natAbs =
          some (roundToPrecision (10 ^ number.exponent.natAbs)) := if_pos hfew
      obtain ⟨-, hpos, hten⟩ := close_powerOfTen? hsome
      rw [quotient?, hsome] at h
      have hexponent : (10 : ℚ) ^ number.exponent = (10 ^ number.exponent.natAbs)⁻¹ := by
        rw [← zpow_natCast, ← zpow_neg, Int.natCast_natAbs, abs_of_neg (by omega), neg_neg]
      have hcast : (0 : ℚ) < roundToPrecision (10 ^ number.exponent.natAbs) := by
        exact_mod_cast hpos
      have hquotient := hmantissa.mul (hten.inv hcast (by positivity)) (by positivity)
        (by positivity) (by positivity) (by positivity)
      have hrounded := close_roundedQuotient (roundToPrecision number.mantissa) hpos
      rw [BinaryFraction.integer?_eq_some_iff.mp h, div_eq_mul_inv] at hrounded
      rw [hexponent]
      exact .inr (hrounded.trans hquotient)

/-! ## Numbers of few digits -/

section

variable {number : JsonNumber}

/-- A size that is the integer of a number, up to the sign. -/
theorem exists_value_eq {size : ℕ} (h : |number.value| = size) :
    ∃ integer : ℤ, number.value = integer := by
  rcases abs_choice number.value with habs | habs
  · exact ⟨size, by rw [← habs, h, Int.cast_natCast]⟩
  · refine ⟨-size, ?_⟩
    rw [Int.cast_neg, Int.cast_natCast, ← h, habs, neg_neg]

/-- Rounding does not make an integer of a quotient of few digits. -/
theorem div_eq_of_roundedQuotient {mantissa divisor size : ℕ} (hmantissa : mantissa < 2 ^ precision)
    (hdivisor : 0 < divisor) (h : (roundedQuotient mantissa divisor).value = size) :
    (mantissa / divisor : ℚ) = size := by
  obtain ⟨units, places, heq, herror, -⟩ := exists_roundedQuotient_eq mantissa hdivisor
  have hpos : (0 : ℚ) < divisor := Nat.cast_pos.mpr hdivisor
  rw [heq, BinaryFraction.value] at h
  -- Both distances are counted in units of the last decimal place.
  have hbefore : |(units / 2 ^ places * divisor : ℚ) - mantissa| ≤ 1 / 2 ^ (precision + 2) := by
    have hproduct : (units / 2 ^ places * divisor : ℚ) - mantissa =
        (units / 2 ^ places - mantissa / divisor) * divisor := by
      rw [sub_mul, div_mul_cancel₀ _ hpos.ne']
    have hbound : (1 : ℚ) / 2 ^ (precision + 2) =
        1 / (2 ^ (precision + 2) * divisor) * divisor := by field_simp
    rw [hproduct, abs_mul, abs_of_pos hpos, hbound]
    exact mul_le_mul_of_nonneg_right herror hpos.le
  have hafter : |(size * divisor : ℚ) - units / 2 ^ places * divisor| ≤
      units / 2 ^ places * divisor / 2 ^ precision := by
    have hunit : (0 : ℚ) ≤ divisor / 2 ^ places := by positivity
    have hproduct : (size * divisor : ℚ) - units / 2 ^ places * divisor =
        (roundToPrecision units - units) * (divisor / 2 ^ places) := by
      rw [← h]
      ring
    have hbound : (units / 2 ^ places * divisor / 2 ^ precision : ℚ) =
        units / 2 ^ precision * (divisor / 2 ^ places) := by ring
    rw [hproduct, abs_mul, abs_of_nonneg hunit, hbound]
    exact mul_le_mul_of_nonneg_right (abs_roundToPrecision_sub_le units) hunit
  have hdigits : (mantissa : ℚ) ≤ 2 ^ precision - 1 := by
    have hle : mantissa + 1 ≤ 2 ^ precision := hmantissa
    have hcast : (mantissa + 1 : ℚ) ≤ 2 ^ precision := by exact_mod_cast hle
    linarith
  have hdistance : |(size * divisor : ℚ) - mantissa| < 1 := by
    have hprecision : (2 : ℚ) ^ precision = 9007199254740992 := by norm_num [precision]
    obtain ⟨hlow, hhigh⟩ := abs_le.mp hbefore
    obtain ⟨hlow', hhigh'⟩ := abs_le.mp hafter
    rw [pow_add, hprecision] at hlow hhigh
    rw [hprecision] at hlow' hhigh' hdigits
    rw [abs_lt]
    constructor <;> linarith
  have hinteger : |((size * divisor : ℕ) : ℤ) - mantissa| < 1 := by exact_mod_cast hdistance
  have hsame : size * divisor = mantissa := by
    have hzero := Int.abs_lt_one_iff.mp hinteger
    omega
  rw [div_eq_iff hpos.ne', ← hsame, Nat.cast_mul]

/-- A number of few digits that is no integer is not taken for one. -/
theorem magnitude?_eq_none (hmantissa : number.mantissa < 2 ^ precision)
    (hexponent : -greatestPower ≤ number.exponent)
    (hvalue : ∀ integer : ℤ, number.value ≠ integer) : number.magnitude? = none := by
  rw [Option.eq_none_iff_forall_ne_some]
  intro size hsize
  have hnone (size : ℕ) : |number.value| ≠ size := by
    intro habs
    obtain ⟨integer, hinteger⟩ := exists_value_eq habs
    exact hvalue integer hinteger
  have hclose : Close 4 (size : ℚ) |number.value| :=
    (close_magnitude? hsize).resolve_left fun h => absurd h.2 (not_lt.mpr hexponent)
  have hnegative : number.exponent < 0 := by
    by_contra hpositive
    have hplaces : number.exponent = number.exponent.toNat := by omega
    refine hnone (number.mantissa * 10 ^ number.exponent.toNat) ?_
    rw [abs_value, hplaces, zpow_natCast, Int.toNat_natCast]
    push_cast
    rfl
  have hsizeOf : |number.value| = number.mantissa / 10 ^ number.exponent.natAbs := by
    rw [abs_value, div_eq_mul_inv, ← zpow_natCast, ← zpow_neg, Int.natCast_natAbs,
      abs_of_neg hnegative, neg_neg]
  rcases Nat.lt_or_ge 22 number.exponent.natAbs with hmany | hfew
  · -- The number is less than one, and so its binary value is zero, but only zero is that small.
    have hdigits : (number.mantissa : ℚ) ≤ 2 ^ precision := by exact_mod_cast hmantissa.le
    have hten : (10 : ℚ) ^ 23 ≤ 10 ^ number.exponent.natAbs := pow_le_pow_right₀ (by norm_num) hmany
    have hgap : (2 : ℚ) ^ precision * 2 < 10 ^ 23 := by norm_num [precision]
    have hsmall : |number.value| < 1 / 2 := by
      rw [hsizeOf, div_lt_div_iff₀ (by positivity) (by norm_num)]
      linarith
    have hpow : 1 / 2 ≤ roundedOne ^ 4 := by norm_num [roundedOne, precision]
    have hless : (size : ℚ) < 1 := by
      have hscaled := mul_le_mul_of_nonneg_left hpow (Nat.cast_nonneg size : (0 : ℚ) ≤ size)
      linarith [hclose.left_le]
    have hzero : size = 0 := by
      have hcast : size < 1 := by exact_mod_cast hless
      omega
    have hscaled := mul_le_mul_of_nonneg_left hpow (abs_nonneg number.value)
    have hright := hclose.right_le
    rw [hzero, Nat.cast_zero] at hright
    exact hnone 0 (le_antisymm (by push_cast; linarith) (by simp))
  · -- The power of ten is exact, and only the quotient is rounded.
    have hpower : powerOfTen? number.exponent.natAbs = some (10 ^ number.exponent.natAbs) := by
      refine powerOfTen?_eq_some ((Nat.pow_le_pow_right (by decide) hfew).trans ?_)
      norm_num [precision]
    rw [magnitude?, if_neg (by omega), roundToPrecision_of_fits (fits_of_le hmantissa.le),
      quotient?, hpower] at hsize
    have hquotient := div_eq_of_roundedQuotient hmantissa (by positivity)
      (BinaryFraction.integer?_eq_some_iff.mp hsize)
    refine hnone size (hsizeOf.trans ?_)
    rw [← hquotient]
    push_cast
    rfl

/-- A number of few digits that is no integer is not read. -/
theorem toInt64?_eq_none (hmantissa : number.mantissa < 2 ^ precision)
    (hexponent : -greatestPower ≤ number.exponent)
    (hvalue : ∀ integer : ℤ, number.value ≠ integer) : number.toInt64? = none := by
  rw [toInt64?, magnitude?_eq_none hmantissa hexponent hvalue]

/-! ## Integers of 64 bits -/

/-- A number has the sign that is written. -/
theorem value_eq_of_negative : number.value = if number.negative then -|number.value|
    else |number.value| := by
  rw [abs_value, value]
  split <;> ring

/-- The limits of 64 bits move a size by at most one rounding. -/
theorem close_min_sizeLimit {size : ℕ} (h : size ≤ sizeLimit) :
    Close 1 ((min size (sizeLimit - 1) : ℕ) : ℚ) size := by
  refine .of_abs_sub_le (Nat.cast_nonneg size) ?_
  rcases Nat.lt_or_eq_of_le h with hless | rfl
  · rw [min_eq_left (Nat.le_sub_one_of_lt hless), sub_self, abs_zero]
    positivity
  · norm_num [sizeLimit, precision]

/-- The integer that a number is read as has 64 bits. -/
theorem toInt64?_bounds {integer : ℤ} (h : number.toInt64? = some integer) :
    -2 ^ 63 ≤ integer ∧ integer < 2 ^ 63 := by
  have hlimit : sizeLimit = 2 ^ 63 := rfl
  unfold toInt64? at h
  split at h
  · cases h
  · split at h
    · cases h
    · split at h
      · cases h
        omega
      · cases h
        omega

/-- The integer that a number is read as is off by at most one part in `2 ^ 50`, unless it is zero
for a number of very many decimal places. -/
theorem abs_toInt64?_sub_value_le {integer : ℤ} (h : number.toInt64? = some integer) :
    |integer - number.value| ≤ |number.value| / 2 ^ 50 ∨
      integer = 0 ∧ number.exponent < -greatestPower := by
  have hsign := @value_eq_of_negative number
  have habs := abs_nonneg number.value
  unfold toInt64? at h
  split at h
  · cases h
  · next size hsize =>
    split at h
    · cases h
    · next hlimit =>
      rcases close_magnitude? hsize with ⟨rfl, hexponent⟩ | hclose
      · refine .inr ⟨?_, hexponent⟩
        split at h
        · cases h
          rfl
        · cases h
          rfl
      · left
        split at h
        · next hnegative =>
          cases h
          rw [if_pos hnegative] at hsign
          have hdistance := (hclose.mono (by decide) (by positivity) habs).abs_sub_le habs
          rw [hsign, abs_neg, abs_abs]
          rw [← abs_neg] at hdistance
          convert hdistance using 2
          push_cast
          ring
        · next hpositive =>
          cases h
          rw [if_neg hpositive] at hsign
          have hdistance :=
            ((close_min_sizeLimit (Nat.not_lt.mp hlimit)).trans hclose).abs_sub_le habs
          rw [hsign, abs_abs]
          exact_mod_cast hdistance

end

end AvrSetup.JsonNumber

namespace AvrSetup.Configuration

/-! ## Numbers as settings -/

/-- A number is a setting exactly if it is read as an integer, and otherwise it is rejected. -/
theorem valueOf_number_cases (key : String) (number : JsonNumber) :
    (∃ integer, number.toInt64? = some integer ∧
      valueOf key (.number number) = .ok (.int integer)) ∨
    number.toInt64? = none ∧
      valueOf key (.number number) =
        .error (.unsupportedValue key (Json.number number).compact) := by
  cases hread : number.toInt64? with
  | none => exact .inr ⟨rfl, by simp only [valueOf, hread]⟩
  | some integer => exact .inl ⟨integer, rfl, by simp only [valueOf, hread]⟩

/-- What is not a setting is rejected with its key and its text. -/
theorem eq_of_valueOf_eq_error {key : String} {json : Json} {failure : Failure}
    (h : valueOf key json = .error failure) : failure = .unsupportedValue key json.compact := by
  unfold valueOf at h
  split at h
  · cases h
  · cases h
  · split at h
    · cases h
    · cases h
      rfl
  · cases h
    rfl

/-- A record has the value of each member, or else some member is rejected. -/
theorem settingsOf_cases {members : List (String × Json)}
    (hnames : (members.map Prod.fst).Nodup) :
    (∃ settings, settingsOf members = .ok settings ∧ ∀ key json, (key, json) ∈ members →
      ∃ value, valueOf key json = .ok value ∧ settings.get? key = some value) ∨
    ∃ key json, (key, json) ∈ members ∧
      valueOf key json = .error (.unsupportedValue key json.compact) ∧
        settingsOf members = .error (.unsupportedValue key json.compact) := by
  unfold settingsOf mapOf
  rcases mapM_ok_or_error (fun (key, json) => (valueOf key json).map (key, ·)) members with
    hall | ⟨⟨key, json⟩, hmember, failure, hfailure, hrun⟩
  · obtain ⟨entries, hrun, hentries⟩ := exists_mapM_eq_ok hall
    refine .inl ⟨_, map_eq_ok_iff.mpr ⟨entries, hrun, rfl⟩, fun key json hmember => ?_⟩
    obtain ⟨_, hresult⟩ := hall (key, json) hmember
    obtain ⟨value, hvalue, rfl⟩ := map_eq_ok_iff.mp hresult
    refine ⟨value, hvalue, ?_⟩
    have hkey : key ∈ entries.map Prod.fst :=
      List.mem_map.mpr ⟨(key, value), (hentries _).mpr ⟨_, hmember, hresult⟩, rfl⟩
    obtain ⟨found, hfound⟩ :=
      SortedMap.contains_iff.mp ((SortedMap.contains_ofList entries key).mpr hkey)
    -- No other member has this key, and so no other value can have been put there.
    obtain ⟨⟨other, json'⟩, hmember', hresult'⟩ :=
      (hentries _).mp (SortedMap.mem_of_get?_ofList hfound)
    obtain ⟨value', hvalue', heq⟩ := map_eq_ok_iff.mp hresult'
    cases heq
    have hsame := List.inj_on_of_nodup_map hnames hmember hmember' rfl
    cases hsame
    rw [hvalue] at hvalue'
    cases hvalue'
    exact hfound
  · have hrejected := map_eq_error_iff.mp hfailure
    have hkind := eq_of_valueOf_eq_error hrejected
    rw [hkind] at hrejected hrun
    exact .inr ⟨key, json, hmember, hrejected, map_eq_error_iff.mpr hrun⟩

/-- A number of few digits that is not too great is read as the integer that it is, and rejected if
it is none. -/
theorem valueOf_number_of_few {number : JsonNumber} (hmantissa : number.mantissa < 2 ^ 53)
    (hleast : -308 ≤ number.exponent) (hgreatest : number.exponent ≤ 308)
    (hsize : |number.value| ≤ 2 ^ 53) (key : String) :
    (∀ integer : ℤ, valueOf key (.number number) = .ok (.int integer) ↔ number.value = integer) ∧
      (valueOf key (.number number) =
          .error (.unsupportedValue key (Json.number number).compact) ↔
        ∀ integer : ℤ, number.value ≠ integer) := by
  have hexact {integer : ℤ} (hvalue : number.value = integer) :
      number.toInt64? = some integer := by
    rw [hvalue, ← Int.cast_abs, ← Nat.cast_natAbs] at hsize
    have hnatAbs : integer.natAbs ≤ 2 ^ JsonNumber.precision := by exact_mod_cast hsize
    have hfits := JsonNumber.fits_of_le hmantissa.le
    exact (JsonNumber.standsFor_of_fits hvalue hfits hgreatest hnatAbs).toInt64?_eq_some hnatAbs
  have hnone (hvalue : ∀ integer : ℤ, number.value ≠ integer) : number.toInt64? = none :=
    JsonNumber.toInt64?_eq_none hmantissa hleast hvalue
  rcases valueOf_number_cases key number with ⟨found, hread, hok⟩ | ⟨hread, hrejected⟩
  · have hfound : number.value = found := by
      by_contra hne
      by_cases hinteger : ∃ integer : ℤ, number.value = integer
      · obtain ⟨integer, hvalue⟩ := hinteger
        rw [hexact hvalue] at hread
        cases hread
        exact hne hvalue
      · rw [hnone (not_exists.mp hinteger)] at hread
        cases hread
    rw [hok, hfound]
    refine ⟨fun integer => ?_, fun h => (by cases h), fun h => absurd rfl (h found)⟩
    rw [Except.ok.injEq, Value.int.injEq, Int.cast_inj]
  · rw [hrejected]
    refine ⟨fun integer => ⟨fun h => (by cases h), fun hvalue => ?_⟩, fun _ integer hvalue => ?_,
      fun _ => rfl⟩
    · rw [hexact hvalue] at hread
      cases hread
    · rw [hexact hvalue] at hread
      cases hread

/-- A number that is too great for 64 bits by more than rounding can hide is rejected. -/
theorem valueOf_number_of_great {number : JsonNumber} (hleast : -308 ≤ number.exponent)
    (hsize : 2 ^ 63 + 2 ^ 14 < |number.value|) (key : String) :
    valueOf key (.number number) =
      .error (.unsupportedValue key (Json.number number).compact) := by
  rcases valueOf_number_cases key number with ⟨integer, hread, -⟩ | ⟨-, hrejected⟩
  · obtain ⟨hlow, hhigh⟩ := JsonNumber.toInt64?_bounds hread
    have hnear := (JsonNumber.abs_toInt64?_sub_value_le hread).resolve_right fun h =>
      absurd h.2 (not_lt.mpr hleast)
    have hinteger : |(integer : ℚ)| ≤ 2 ^ 63 := by
      rw [abs_le]
      constructor
      · exact_mod_cast hlow
      · exact_mod_cast hhigh.le
    have htriangle : |number.value| ≤ |(integer : ℚ)| + |integer - number.value| := by
      have hsplit := abs_sub (integer : ℚ) (integer - number.value)
      rwa [sub_sub_cancel] at hsplit
    linarith
  · exact hrejected

/-- A record has an integer for each of its numbers, or it has a setting that is rejected. The
integer has 64 bits and is off by at most one part in `2 ^ 50`, or it is zero for a number of more
than 308 decimal places. A number of few digits that is not too great is read as the integer that it
is, and rejected if it is none, and so is a number that is much too great. -/
theorem numbers_read_or_rejected {members : List (String × Json)}
    (hnames : (members.map Prod.fst).Nodup) {key : String} {number : JsonNumber}
    (hmember : (key, .number number) ∈ members) :
    ((∃ settings integer, settingsOf members = .ok settings ∧
        settings.get? key = some (.int integer) ∧
          valueOf key (.number number) = .ok (.int integer)) ∨
      ∃ other json, (other, json) ∈ members ∧
        valueOf other json = .error (.unsupportedValue other json.compact) ∧
          settingsOf members = .error (.unsupportedValue other json.compact)) ∧
    ((∃ integer : ℤ, valueOf key (.number number) = .ok (.int integer) ∧
        -2 ^ 63 ≤ integer ∧ integer < 2 ^ 63 ∧
          (|integer - number.value| ≤ |number.value| / 2 ^ 50 ∨
            integer = 0 ∧ number.exponent < -308)) ∨
      valueOf key (.number number) =
        .error (.unsupportedValue key (Json.number number).compact)) ∧
    (number.mantissa < 2 ^ 53 → -308 ≤ number.exponent → number.exponent ≤ 308 →
      |number.value| ≤ 2 ^ 53 →
        (∀ integer : ℤ, valueOf key (.number number) = .ok (.int integer) ↔
          number.value = integer) ∧
        (valueOf key (.number number) =
            .error (.unsupportedValue key (Json.number number).compact) ↔
          ∀ integer : ℤ, number.value ≠ integer)) ∧
    (-308 ≤ number.exponent → 2 ^ 63 + 2 ^ 14 < |number.value| →
      valueOf key (.number number) =
        .error (.unsupportedValue key (Json.number number).compact)) := by
  refine ⟨?_, ?_, ?_, ?_⟩
  · rcases settingsOf_cases hnames with ⟨settings, hsettings, hall⟩ | hrejected
    · obtain ⟨value, hvalue, hget⟩ := hall key (.number number) hmember
      rcases valueOf_number_cases key number with ⟨integer, -, hread⟩ | ⟨-, hrejected⟩
      · rw [hread] at hvalue
        cases hvalue
        exact .inl ⟨settings, integer, hsettings, hget, hread⟩
      · rw [hrejected] at hvalue
        cases hvalue
    · exact .inr hrejected
  · rcases valueOf_number_cases key number with ⟨integer, hread, hok⟩ | ⟨-, hrejected⟩
    · obtain ⟨hleast, hgreatest⟩ := JsonNumber.toInt64?_bounds hread
      exact .inl ⟨integer, hok, hleast, hgreatest, JsonNumber.abs_toInt64?_sub_value_le hread⟩
    · exact .inr hrejected
  · intro hmantissa hleast hgreatest hsize
    exact valueOf_number_of_few hmantissa hleast hgreatest hsize key
  · intro hleast hsize
    exact valueOf_number_of_great hleast hsize key

/-- A record with `-2500`, written with an exponent, has it. -/
theorem numbers_read_or_rejected_baud :
    ∃ settings, settingsOf [("baud", .number ⟨true, 25, 2⟩)] = .ok settings ∧
      settings.get? "baud" = some (.int (-2500)) := by
  obtain ⟨hrecord, -, hexact, -⟩ := @numbers_read_or_rejected [("baud", .number ⟨true, 25, 2⟩)]
    (by decide) "baud" ⟨true, 25, 2⟩ (List.mem_singleton_self _)
  have hsize : |JsonNumber.value ⟨true, 25, 2⟩| ≤ 2 ^ 53 := by
    norm_num [JsonNumber.value, abs_le]
  obtain ⟨hread, -⟩ := hexact (by decide) (by decide) (by decide) hsize
  have hbaud : valueOf "baud" (.number ⟨true, 25, 2⟩) = .ok (.int (-2500)) := by
    refine (hread (-2500)).mpr ?_
    norm_num [JsonNumber.value]
  rcases hrecord with ⟨settings, integer, hsettings, hget, hread⟩ |
    ⟨other, json, hmember, hrejected, -⟩
  · rw [hbaud] at hread
    cases hread
    exact ⟨settings, hsettings, hget⟩
  · cases List.mem_singleton.mp hmember
    rw [hbaud] at hrejected
    cases hrejected

/-- The first power of two beyond 64 bits is read as the integer before it, an odd integer of 54
bits as an even one, a number between two integers as one of them, and a very small number as zero,
although none of the integers is the number that is written. -/
theorem numbers_read_inexactly :
    parse ("\x7b\"wdt\": \x7b\"enabled\": true, \"settings\": " ++
        "\x7b\"n\": 9223372036854775808\x7d\x7d\x7d") =
      .ok (SortedMap.ofList [(.watchdog, .global true
        (SortedMap.ofList [("n", .int 9223372036854775807)]) ∅)]) ∧
    JsonNumber.value ⟨false, 9223372036854775808, 0⟩ = 9223372036854775808 ∧
    valueOf "n" (.number ⟨false, 9223372036854775808, 0⟩) = .ok (.int 9223372036854775807) ∧
    JsonNumber.value ⟨false, 9007199254740993, 0⟩ = 9007199254740993 ∧
    valueOf "n" (.number ⟨false, 9007199254740993, 0⟩) = .ok (.int 9007199254740992) ∧
    JsonNumber.value ⟨false, 45035996273704975, -1⟩ = 45035996273704975 / 10 ∧
    valueOf "n" (.number ⟨false, 45035996273704975, -1⟩) = .ok (.int 4503599627370498) ∧
    JsonNumber.value ⟨false, 1, -400⟩ ≠ 0 ∧
    valueOf "n" (.number ⟨false, 1, -400⟩) = .ok (.int 0) := by
  refine ⟨by decide +kernel, ?_, by decide +kernel, ?_, by decide +kernel, ?_, by decide +kernel,
    ?_, by decide +kernel⟩
  · norm_num [JsonNumber.value]
  · norm_num [JsonNumber.value]
  · norm_num [JsonNumber.value]
  · simp [JsonNumber.value]

end AvrSetup.Configuration
