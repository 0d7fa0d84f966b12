import Mathlib.Algebra.Group.Int.Defs
import ReportCharts.Proofs.Json.Numerals

/-!
Whole numbers as labels.

The label of a whole number is its decimal text, as far as 64 bits with a sign go. Read as a count it is
that number again up to `2 ^ 63`: the label of `2 ^ 63` is one less, which is nearest to `2 ^ 63`. No two
numbers up to there share a label, and all beyond share two.
-/

namespace ReportCharts

namespace Binary64

section

variable {low high value : Int}

theorem clamp_of_le (below : value ≤ low) : clamp low high value = low := by
  unfold clamp
  omega

theorem clamp_of_ge (ordered : low ≤ high) (above : high ≤ value) : clamp low high value = high := by
  unfold clamp
  omega

theorem clamp_eq_self_iff (ordered : low ≤ high) :
    clamp low high value = value ↔ low ≤ value ∧ value ≤ high := by
  unfold clamp
  omega

end

end Binary64

namespace Cell

open Binary64

/-- The label of a whole number, and the count that is read of it. -/
structure WholeLabel (value : Binary64) (whole : Int) : Prop where
  written : (number value).label = toString (clamp int64Min int64Max whole)
  saturates : (text (number value).label).count.toInt? = some (clamp (-2 ^ 63) (2 ^ 63) whole)
  kept : (text (number value).label).count.toInt? = value.toInt? ↔ whole.natAbs ≤ 2 ^ 63
  /-- The two zeros count as one number. -/
  distinct : whole.natAbs ≤ 2 ^ 63 → ∀ other otherWhole, other.toInt? = some otherWhole →
    otherWhole.natAbs ≤ 2 ^ 63 → (number other).label = (number value).label →
      other = value ∨ otherWhole = 0 ∧ whole = 0

section

variable {value : Binary64} {whole : Int}

theorem label_of_toInt? (integer : value.toInt? = some whole) :
    (number value).label = toString (clamp int64Min int64Max whole) := by
  rw [label, numberLabel, integer]

/-- The greatest integer of 64 bits with a sign is no double; the one nearest to it is the next integer. -/
theorem toInt?_ofInt_int64Max : (ofInt int64Max).toInt? = some (2 ^ 63) := by decide +kernel

theorem toInt?_ofInt_int64Min : (ofInt int64Min).toInt? = some (-2 ^ 63) := by decide +kernel

/-- Saturated to 64 bits and rounded, a whole number is itself or on the limit that it is beyond. -/
theorem toInt?_ofInt_clamp (integer : value.toInt? = some whole) :
    (ofInt (clamp int64Min int64Max whole)).toInt? = some (clamp (-2 ^ 63) (2 ^ 63) whole) := by
  have low : int64Min = -2 ^ 63 := by decide
  have high : int64Max = 2 ^ 63 - 1 := by decide
  by_cases below : whole < -2 ^ 63
  · rw [clamp_of_le (by omega), clamp_of_le (by omega), toInt?_ofInt_int64Min]
  by_cases above : 2 ^ 63 ≤ whole
  · rw [clamp_of_ge (by decide) (by omega), clamp_of_ge (by decide) (by omega), toInt?_ofInt_int64Max]
  · rw [(clamp_eq_self_iff (by decide)).mpr (by omega), (clamp_eq_self_iff (by decide)).mpr (by omega)]
    exact toInt?_ofInt_of_toInt? integer

theorem count_label (integer : value.toInt? = some whole) :
    (text (number value).label).count.toInt? = some (clamp (-2 ^ 63) (2 ^ 63) whole) := by
  have fits : Json.Fits (clamp int64Min int64Max whole) := by
    obtain ⟨low, high⟩ := clamp_mem int64Min int64Max whole (by decide)
    have limit : int64Max < UInt64.size := by decide
    exact ⟨low, by omega⟩
  rw [label_of_toInt? integer, count_toString fits, toInt?_ofInt_clamp integer]

theorem clamp_eq_whole_iff : clamp (-2 ^ 63) (2 ^ 63) whole = whole ↔ whole.natAbs ≤ 2 ^ 63 := by
  rw [clamp_eq_self_iff (by decide)]
  omega

theorem eq_of_label {other : Binary64} {otherWhole : Int} (integer : value.toInt? = some whole)
    (small : whole.natAbs ≤ 2 ^ 63) (otherInteger : other.toInt? = some otherWhole)
    (otherSmall : otherWhole.natAbs ≤ 2 ^ 63) (same : (number other).label = (number value).label) :
    other = value ∨ otherWhole = 0 ∧ whole = 0 := by
  have read := count_label integer
  rw [← same, count_label otherInteger, clamp_eq_whole_iff.mpr small,
    clamp_eq_whole_iff.mpr otherSmall] at read
  obtain rfl := Option.some.inj read
  by_cases zero : otherWhole = 0
  · exact .inr ⟨zero, zero⟩
  · exact .inl (eq_of_toInt? zero otherInteger integer)

/-- What the label of a whole number is, and how far it can be read back. -/
theorem wholeLabel_of_toInt? (integer : value.toInt? = some whole) : WholeLabel value whole where
  written := label_of_toInt? integer
  saturates := count_label integer
  kept := by rw [count_label integer, integer, Option.some.injEq, clamp_eq_whole_iff]
  distinct small _ _ := eq_of_label integer small

end

theorem wholeLabel_negativeZero_and_limits :
    WholeLabel negativeZero 0 ∧ WholeLabel (ofInt (2 ^ 63)) (2 ^ 63) ∧
      WholeLabel (ofInt (2 ^ 63 + 2048)) (2 ^ 63 + 2048) ∧
      (number negativeZero).label = "0" ∧
      (number (ofInt (2 ^ 63))).label = "9223372036854775807" := by
  have zero : negativeZero.toInt? = some 0 := by decide +kernel
  have limit : (ofInt (2 ^ 63)).toInt? = some (2 ^ 63) := by decide +kernel
  have beyond : (ofInt (2 ^ 63 + 2048)).toInt? = some (2 ^ 63 + 2048) := by decide +kernel
  refine ⟨wholeLabel_of_toInt? zero, wholeLabel_of_toInt? limit, wholeLabel_of_toInt? beyond, ?_, ?_⟩
  · rw [(wholeLabel_of_toInt? zero).written]
    rfl
  · rw [(wholeLabel_of_toInt? limit).written]
    rfl

end Cell

end ReportCharts
