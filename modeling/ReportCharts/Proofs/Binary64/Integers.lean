import Mathlib.Algebra.Group.Nat.Defs
import ReportCharts.Binary64.Nearest

/-!
Integers as doubles: how large the rank of a rounded integer can get, and which integers stay the
same.
-/

namespace ReportCharts.Binary64

theorem divideToEven_le (numerator denominator : Nat) :
    divideToEven numerator denominator ≤ numerator / denominator + 1 := by
  simp only [divideToEven]
  split
  · omega
  split
  · omega
  · have parity := Nat.mod_lt (numerator / denominator) (by decide : 0 < 2)
    omega

/-- Each binary place beyond a significand raises the rank by no more than one binade. -/
theorem nearestRank_one_le {numerator bits : Nat} (small : numerator < Nat.pow 2 bits) :
    nearestRank numerator 1 ≤ (bits - fraction + 2) * significands := by
  have places : numerator.log2 ≤ bits := by
    by_cases zero : numerator = 0
    · simp [zero]
    · exact Nat.le_of_lt ((Nat.log2_lt zero).mpr small)
  have taken : excessBits numerator 1 ≤ bits - fraction := by
    rw [excessBits, Nat.div_one]
    omega
  have below : numerator < 2 ^ (fraction + 1) * 2 ^ excessBits numerator 1 := by
    rw [← Nat.pow_add]
    refine Nat.lt_of_lt_of_le Nat.lt_log2_self (Nat.pow_le_pow_right (by decide) ?_)
    rw [excessBits, Nat.div_one]
    omega
  have quotient : numerator / 2 ^ excessBits numerator 1 < 2 ^ (fraction + 1) :=
    Nat.div_lt_of_lt_mul (by rwa [Nat.mul_comm])
  have rounded := divideToEven_le numerator (2 ^ excessBits numerator 1)
  have binades : excessBits numerator 1 * significands ≤ (bits - fraction) * significands :=
    Nat.mul_le_mul_right _ taken
  have carry : 2 ^ (fraction + 1) = 2 * significands := by decide
  have expanded : (bits - fraction + 2) * significands =
      (bits - fraction) * significands + 2 * significands := Nat.add_mul ..
  simp only [nearestRank, Nat.one_mul, Nat.pow_eq]
  omega

theorem unitsPerOne_eq : unitsPerOne = 2 ^ unitsPerOne.log2 := by decide +kernel

theorem log2_unitsPerOne : unitsPerOne.log2 = 1074 := by decide +kernel

theorem unitsPerOne_pos : 0 < unitsPerOne := by decide +kernel

theorem isFinite_ofInt {value : Int} (small : value.natAbs < UInt64.size) :
    (ofInt value).isFinite = true := by
  have scaled : value.natAbs * unitsPerOne < Nat.pow 2 (64 + unitsPerOne.log2) := by
    have size : UInt64.size = 2 ^ 64 := by decide
    rw [Nat.pow_eq, Nat.pow_add, ← unitsPerOne_eq, ← size]
    exact Nat.mul_lt_mul_of_pos_right small unitsPerOne_pos
  have rank : nearestRank (value.natAbs * unitsPerOne) 1 < ranks := by
    refine Nat.lt_of_le_of_lt (nearestRank_one_le scaled) ?_
    rw [log2_unitsPerOne]
    decide
  rw [ofInt, ofRatio, ofRank, dif_pos rank]
  rfl

theorem divideToEven_mul (quotient : Nat) {denominator : Nat} (positive : 0 < denominator) :
    divideToEven (quotient * denominator) denominator = quotient := by
  simp [divideToEven, Nat.mul_div_cancel _ positive, positive]

theorem units_binade (excess : Nat) {significand : Nat} (low : significands ≤ significand)
    (high : significand < 2 * significands) :
    units (excess * significands + significand) = significand * 2 ^ excess := by
  obtain ⟨behind, rfl⟩ := Nat.exists_eq_add_of_le low
  have inside : behind < significands := by omega
  have shifted : excess * significands + (significands + behind) =
      behind + significands * (excess + 1) := by
    rw [Nat.mul_add, Nat.mul_comm significands excess]
    omega
  have normal : ¬excess * significands + (significands + behind) < significands := by omega
  have remainder : (excess * significands + (significands + behind)) % significands = behind := by
    rw [shifted, Nat.add_mul_mod_self_left, Nat.mod_eq_of_lt inside]
  have binade : (excess * significands + (significands + behind)) / significands = excess + 1 := by
    rw [shifted, Nat.add_mul_div_left _ _ (by decide), Nat.div_eq_of_lt inside, Nat.zero_add]
  rw [units, if_neg normal, remainder, binade]
  rfl

/-- A positive integer of up to 53 bits becomes a significand of 53 bits by doubling. -/
theorem exists_significand {magnitude : Nat} (positive : 0 < magnitude)
    (small : magnitude < 2 * significands) :
    ∃ places, magnitude.log2 + places = fraction ∧ significands ≤ magnitude * 2 ^ places ∧
      magnitude * 2 ^ places < 2 * significands := by
  have nonzero : magnitude ≠ 0 := by omega
  have width : 2 * significands = 2 ^ (fraction + 1) := by decide
  have bits : magnitude.log2 < fraction + 1 := by
    rw [Nat.log2_lt nonzero]
    omega
  obtain ⟨places, whole⟩ : ∃ places, magnitude.log2 + places = fraction :=
    ⟨fraction - magnitude.log2, by omega⟩
  refine ⟨places, whole, ?_, ?_⟩
  · have leading : significands = 2 ^ magnitude.log2 * 2 ^ places := by
      rw [← Nat.pow_add, whole]
      rfl
    rw [leading]
    exact Nat.mul_le_mul_right _ (Nat.log2_self_le nonzero)
  · have beyond : 2 * significands = 2 ^ (magnitude.log2 + 1) * 2 ^ places := by
      rw [← Nat.pow_add, width, ← whole]
      congr 1
      omega
    rw [beyond]
    exact Nat.mul_lt_mul_of_pos_right Nat.lt_log2_self (Nat.pow_pos (by decide))

theorem log2_scaled {magnitude : Nat} (positive : 0 < magnitude) (more : Nat) :
    (magnitude * 2 ^ more).log2 = magnitude.log2 + more := by
  have nonzero : magnitude ≠ 0 := by omega
  have scaled : magnitude * 2 ^ more ≠ 0 := by
    have := Nat.mul_pos positive (Nat.pow_pos (n := more) (by decide : 0 < 2))
    omega
  rw [Nat.log2_eq_iff scaled, Nat.pow_add, Nat.add_right_comm, Nat.pow_add]
  constructor
  · exact Nat.mul_le_mul_right _ (Nat.log2_self_le nonzero)
  · exact Nat.mul_lt_mul_of_pos_right Nat.lt_log2_self (Nat.pow_pos (by decide))

theorem log2_significand {significand : Nat} (low : significands ≤ significand)
    (high : significand < 2 * significands) : significand.log2 = fraction := by
  have leading : significands = 2 ^ fraction := rfl
  have nonzero : significand ≠ 0 := by
    have positive : 0 < significands := by decide
    omega
  rw [Nat.log2_eq_iff nonzero, Nat.pow_succ]
  omega

theorem exists_binade {rank : Nat} (normal : significands ≤ rank) :
    ∃ excess significand, rank = excess * significands + significand ∧
      significands ≤ significand ∧ significand < 2 * significands := by
  have positive : 0 < significands := by decide
  have inside := Nat.mod_lt rank positive
  have divided := Nat.div_add_mod' rank significands
  have binade : 0 < rank / significands := Nat.div_pos normal positive
  refine ⟨rank / significands - 1, significands + rank % significands, ?_, by omega, by omega⟩
  obtain ⟨excess, next⟩ := Nat.exists_eq_add_of_le' binade
  rw [next, Nat.add_one_sub_one]
  rw [next, Nat.add_mul] at divided
  omega

/-- The rank nearest to a finite double is its own. -/
theorem nearestRank_units (rank : Nat) : nearestRank (units rank) 1 = rank := by
  by_cases small : rank < significands
  · have bits : rank.log2 - fraction = 0 := by
      by_cases zero : rank = 0
      · simp [zero]
      · have below : rank.log2 < fraction := (Nat.log2_lt zero).mpr small
        omega
    rw [units_of_lt small, nearestRank, excessBits, Nat.div_one, bits]
    simp [divideToEven_one]
  · obtain ⟨excess, significand, rfl, low, high⟩ := exists_binade (Nat.not_lt.mp small)
    have positive : 0 < significand := Nat.lt_of_lt_of_le (by decide) low
    have bits : excessBits (significand * 2 ^ excess) 1 = excess := by
      rw [excessBits, Nat.div_one, log2_scaled positive, log2_significand low high,
        Nat.add_sub_cancel_left]
    rw [units_binade excess low high, nearestRank, bits, Nat.one_mul, Nat.pow_eq,
      divideToEven_mul _ (Nat.pow_pos (by decide))]

theorem exists_rank {magnitude : Nat} (positive : 0 < magnitude)
    (small : magnitude < 2 * significands) :
    ∃ rank < ranks, units rank = magnitude * unitsPerOne := by
  obtain ⟨places, whole, low, high⟩ := exists_significand positive small
  obtain ⟨excess, scale⟩ : ∃ excess, excess + places = 1074 := ⟨1074 - places, by
    simp only [fraction] at whole
    omega⟩
  have one : unitsPerOne = 2 ^ places * 2 ^ excess := by
    rw [← Nat.pow_add, Nat.add_comm, scale, ← log2_unitsPerOne]
    exact unitsPerOne_eq
  refine ⟨excess * significands + magnitude * 2 ^ places, ?_, ?_⟩
  · have binades : excess * significands ≤ 1074 * significands :=
      Nat.mul_le_mul_right _ (by omega)
    have limit : 1074 * significands + 2 * significands ≤ ranks := by decide
    omega
  · rw [units_binade excess low high, one, ← Nat.mul_assoc]

theorem wholeMagnitude?_eq_some_iff {rank magnitude : Nat} :
    wholeMagnitude? rank = some magnitude ↔ units rank = magnitude * unitsPerOne := by
  rw [wholeMagnitude?, Option.ite_none_right_eq_some, Option.some.injEq]
  constructor
  · rintro ⟨divides, rfl⟩
    exact (Nat.div_mul_cancel (Nat.dvd_of_mod_eq_zero divides)).symm
  · intro multiple
    rw [multiple]
    exact ⟨Nat.mul_mod_left .., Nat.mul_div_cancel _ unitsPerOne_pos⟩

theorem toInt?_eq_some_iff {negative : Bool} {rank : Fin 0x7ff0000000000000} {value : Int} :
    (finite negative rank).toInt? = some value ↔
      units rank = value.natAbs * unitsPerOne ∧
        value = if negative then -(value.natAbs : Int) else value.natAbs := by
  rw [← wholeMagnitude?_eq_some_iff, toInt?]
  cases found : wholeMagnitude? rank with
  | none => simp
  | some magnitude =>
      change some (if negative then -(magnitude : Int) else magnitude) = some value ↔
        some magnitude = some value.natAbs ∧ _
      rw [Option.some.injEq, Option.some.injEq]
      cases negative with
      | false =>
          rw [if_neg Bool.false_ne_true, if_neg Bool.false_ne_true]
          omega
      | true =>
          rw [if_pos rfl, if_pos rfl]
          omega

theorem toInt?_ofInt_of_units {value : Int} {rank : Nat} (inRange : rank < ranks)
    (same : units rank = value.natAbs * unitsPerOne) : (ofInt value).toInt? = some value := by
  have signed : value =
      if decide (value < 0) = true then -(value.natAbs : Int) else value.natAbs := by
    simp only [decide_eq_true_eq]
    omega
  rw [ofInt, ofRatio, ← same, nearestRank_units, ofRank, dif_pos inRange]
  exact toInt?_eq_some_iff.mpr ⟨same, signed⟩

theorem ofInt_zero : ofInt 0 = zero := by
  have rank : nearestRank 0 1 = 0 := by decide
  rw [ofInt, ofRatio, Int.natAbs_zero, Nat.zero_mul, rank, ofRank, dif_pos (by decide)]
  rfl

theorem toInt?_ofInt {value : Int} (small : value.natAbs < 2 * significands) :
    (ofInt value).toInt? = some value := by
  by_cases zero : value = 0
  · have nothing : units 0 = value.natAbs * unitsPerOne := by
      rw [units_of_lt (by decide), zero, Int.natAbs_zero, Nat.zero_mul]
    exact toInt?_ofInt_of_units (by decide) nothing
  · obtain ⟨rank, inRange, same⟩ := exists_rank (by omega) small
    exact toInt?_ofInt_of_units inRange same

/-- A double that is an integer is read again from that integer, but for the sign of zero. -/
theorem toInt?_ofInt_of_toInt? {number : Binary64} {value : Int}
    (whole : number.toInt? = some value) : (ofInt value).toInt? = some value := by
  cases number with
  | nan => cases whole
  | infinite negative => cases whole
  | finite negative rank => exact toInt?_ofInt_of_units rank.isLt (toInt?_eq_some_iff.mp whole).1

theorem units_injective : Function.Injective units := by
  intro first second same
  rw [← nearestRank_units first, same, nearestRank_units]

/-- Only zero has a sign of its own. -/
theorem negative_eq_of_toInt? {negative : Bool} {rank : Fin 0x7ff0000000000000} {value : Int}
    (nonzero : value ≠ 0) (whole : (finite negative rank).toInt? = some value) :
    negative = decide (value < 0) := by
  obtain ⟨-, signed⟩ := toInt?_eq_some_iff.mp whole
  cases negative with
  | false =>
      rw [if_neg Bool.false_ne_true] at signed
      exact (decide_eq_false (by omega)).symm
  | true =>
      rw [if_pos rfl] at signed
      exact (decide_eq_true (by omega)).symm

theorem eq_of_toInt? {first second : Binary64} {value : Int} (nonzero : value ≠ 0)
    (readFirst : first.toInt? = some value) (readSecond : second.toInt? = some value) :
    first = second := by
  cases first with
  | nan => cases readFirst
  | infinite negative => cases readFirst
  | finite negative rank =>
      cases second with
      | nan => cases readSecond
      | infinite negative => cases readSecond
      | finite otherNegative otherRank =>
          have units := (toInt?_eq_some_iff.mp readFirst).1
          have otherUnits := (toInt?_eq_some_iff.mp readSecond).1
          rw [negative_eq_of_toInt? nonzero readFirst, negative_eq_of_toInt? nonzero readSecond,
            Fin.ext (units_injective (units.trans otherUnits.symm))]

end ReportCharts.Binary64
