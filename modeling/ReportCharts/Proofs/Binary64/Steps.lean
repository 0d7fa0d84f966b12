import ReportCharts.Binary64.Stepwise
import ReportCharts.Proofs.Binary64.Integers

/-!
Numerals that are rounded alike in steps and at once.

The powers of ten up to `10 ^ 22` are doubles, and so are whole numbers of up to 53 bits. The one step that
multiplies or divides two such numbers is then the only one that rounds, and it rounds the number spelled.
-/

namespace ReportCharts.Binary64

theorem divideToEven_mul_mul (numerator denominator : Nat) {factor : Nat} (positive : 0 < factor) :
    divideToEven (numerator * factor) (denominator * factor) = divideToEven numerator denominator := by
  have less : ∀ first second, first * factor < second * factor ↔ first < second :=
    fun _ _ => Nat.mul_lt_mul_right positive
  simp only [divideToEven, Nat.mul_div_mul_right _ _ positive, Nat.mul_mod_mul_right,
    ← Nat.mul_assoc, gt_iff_lt, less]

theorem nearestRank_mul_mul (numerator denominator : Nat) {factor : Nat} (positive : 0 < factor) :
    nearestRank (numerator * factor) (denominator * factor) = nearestRank numerator denominator := by
  have excess : excessBits (numerator * factor) (denominator * factor) =
      excessBits numerator denominator := by
    rw [excessBits, Nat.mul_div_mul_right _ _ positive, excessBits]
  simp only [nearestRank, excess]
  rw [Nat.mul_right_comm, divideToEven_mul_mul _ _ positive]

theorem units_wholeRank {value : Nat} (small : value < 2 * significands) :
    units (wholeRank value) = value * unitsPerOne := by
  by_cases zero : value = 0
  · rw [zero, wholeRank, Nat.zero_mul]
    decide
  · obtain ⟨rank, -, same⟩ := exists_rank (Nat.pos_of_ne_zero zero) small
    rw [wholeRank, ← same, nearestRank_units]

/-- Every power of ten up to here has an odd part of no more than 53 bits. -/
theorem units_tenRank {power : Nat} (small : power ≤ 22) :
    units (tenRank power) = 10 ^ power * unitsPerOne := by
  have all : ∀ power < 23, units (tenRank power) = Nat.pow 10 power * unitsPerOne := by
    decide +kernel
  exact all power (by omega)

section

variable {value : Nat} {exponent : Int}

theorem decimalWidth_le (small : value < 2 * significands) : decimalWidth value ≤ 16 := by
  have limit : 2 * significands < 10 ^ 16 := by decide
  exact (Nat.length_toDigits_le_iff (by decide) (by decide)).mpr (Nat.lt_trans small limit)

theorem product_eq_ofRatio (negative : Bool) {power : Nat} (small : value < 2 * significands)
    (near : power ≤ 22) :
    product negative (wholeRank value) (tenRank power) = ofRatio negative (value * 10 ^ power) 1 := by
  have terms : value * unitsPerOne * (10 ^ power * unitsPerOne) * unitsPerOne =
      value * 10 ^ power * unitsPerOne * (unitsPerOne * unitsPerOne) := by
    rw [Nat.mul_mul_mul_comm value]
    simp only [Nat.mul_assoc]
  have rounded := nearestRank_mul_mul (value * 10 ^ power * unitsPerOne) 1
    (Nat.mul_pos unitsPerOne_pos unitsPerOne_pos)
  rw [Nat.one_mul] at rounded
  rw [product, units_wholeRank small, units_tenRank near, ofRatio, terms, rounded, ofRatio]

theorem quotientRank_eq_nearestRank {power : Nat} (small : value < 2 * significands)
    (near : power ≤ 22) :
    quotientRank (wholeRank value) (tenRank power) =
      nearestRank (value * unitsPerOne) (10 ^ power) := by
  rw [quotientRank, units_wholeRank small, units_tenRank near,
    nearestRank_mul_mul _ _ unitsPerOne_pos]

/-- Few digits and a small exponent give the nearest double. -/
theorem timesTenTo_eq_ofDecimal (negative : Bool) (small : value < 2 * significands)
    (low : -22 ≤ exponent) (high : exponent ≤ 22) :
    timesTenTo negative (wholeRank value) exponent = ofDecimal negative value exponent := by
  have near : exponent.natAbs ≤ 22 := by omega
  have width := decimalWidth_le small
  by_cases zero : value = 0
  · have none : wholeRank 0 = 0 := by
      rw [wholeRank, Nat.zero_mul]
      decide
    rw [zero, none, timesTenTo_zero, ofDecimal_zero]
  · have positive : wholeRank value ≠ 0 := by
      intro none
      have same := units_wholeRank small
      rw [none, units_of_lt (by decide)] at same
      exact Nat.mul_ne_zero zero (Nat.pos_iff_ne_zero.mp unitsPerOne_pos) same.symm
    have inRange : ¬(wholeRank value = 0 ∨ exponent < -616) := by omega
    have notHigh : ¬exponent + decimalWidth value > 310 := by omega
    have notLow : ¬exponent + decimalWidth value < -330 := by omega
    rw [timesTenTo, if_neg inRange, if_neg (by omega), ofDecimal, if_neg zero]
    simp only [if_neg notHigh, if_neg notLow]
    by_cases whole : 0 ≤ exponent
    · rw [if_pos whole, if_neg (by omega), product_eq_ofRatio negative small near, Nat.pow_eq]
    · rw [if_neg whole, if_pos (by omega), if_pos (by omega),
        quotientRank_eq_nearestRank small near, ofRatio, Nat.pow_eq]

end

theorem le_foldl_appendDigit (digits : List Char) (value : Nat) :
    value ≤ digits.foldl appendDigit value := by
  induction digits generalizing value with
  | nil => exact Nat.le_refl value
  | cons digit digits inductionHypothesis =>
      refine Nat.le_trans ?_ (inductionHypothesis (appendDigit value digit))
      unfold appendDigit
      omega

theorem absorb_eq_of_lt {value : Nat} {digits : List Char}
    (fits : digits.foldl appendDigit value < UInt64.size) :
    absorb value digits = (digits.foldl appendDigit value, []) := by
  induction digits generalizing value with
  | nil => rfl
  | cons digit digits inductionHypothesis =>
      have first := Nat.lt_of_le_of_lt (le_foldl_appendDigit digits (appendDigit value digit)) fits
      rw [absorb, if_pos first, inductionHypothesis fits]
      rfl

/-- Few digits and a small exponent are rounded in steps as they are at once. -/
theorem Numeral.stepwise_eq_value {numeral : Numeral}
    (few : digitsValue (numeral.whole ++ numeral.decimals) < 2 * significands)
    (low : -22 ≤ numeral.exponent - numeral.decimals.length)
    (high : numeral.exponent - numeral.decimals.length ≤ 22) : numeral.stepwise = numeral.value := by
  have limit : 2 * significands < UInt64.size := by decide
  have all : digitsValue (numeral.whole ++ numeral.decimals) =
      numeral.decimals.foldl appendDigit (numeral.whole.foldl appendDigit 0) := List.foldl_append
  have fits : numeral.decimals.foldl appendDigit (numeral.whole.foldl appendDigit 0) < UInt64.size := by
    omega
  have fitsWhole := Nat.lt_of_le_of_lt (le_foldl_appendDigit numeral.decimals _) fits
  have leading : numeral.leading = (digitsValue (numeral.whole ++ numeral.decimals),
      numeral.exponent - numeral.decimals.length) := by
    rw [Numeral.leading, absorb_eq_of_lt fitsWhole]
    simp [absorb_eq_of_lt fits, all]
  rw [Numeral.stepwise, leading, timesTenTo_eq_ofDecimal _ few low high, Numeral.value]

end ReportCharts.Binary64
