import ReportCharts.Binary64.Numeral

/-!
Numerals read in steps, each of which rounds.

The leading digits that fit 64 bits become a double, which is multiplied or divided by the double
nearest to a power of ten. Few digits and a small exponent give the nearest double; otherwise the
result may be a neighbour of it, or past the last finite double although the nearest is not.
-/

namespace ReportCharts.Binary64

/-- Append digits to a number while it fits 64 bits; what no longer fits is left. -/
def absorb (value : Nat) : List Char → Nat × List Char
  | [] => (value, [])
  | digit :: rest =>
      if appendDigit value digit < UInt64.size then absorb (appendDigit value digit) rest
      else (value, digit :: rest)

def product (negative : Bool) (first second : Nat) : Binary64 :=
  ofRatio negative (units first * units second) (unitsPerOne * unitsPerOne)

def quotientRank (first second : Nat) : Nat :=
  nearestRank (units first * unitsPerOne) (units second)

def wholeRank (value : Nat) : Nat := nearestRank (value * unitsPerOne) 1

/-- The rank of a power of ten, rounded; `10 ^ 308` is the last one that has a rank. -/
def tenRank (power : Nat) : Nat := wholeRank (Nat.pow 10 power)

/--
Multiply the rank of a 64-bit number by a power of ten.

A division by more than `10 ^ 308` takes two steps, and one by more than `10 ^ 616` leaves nothing.
-/
def timesTenTo (negative : Bool) (rank : Nat) (exponent : Int) : Binary64 :=
  if rank = 0 ∨ exponent < -616 then zeroOf negative
  else if 308 < exponent then .infinite negative
  else if 0 ≤ exponent then product negative rank (tenRank exponent.natAbs)
  else if -308 ≤ exponent then ofRank negative (quotientRank rank (tenRank exponent.natAbs))
  else
    ofRank negative
      (quotientRank (quotientRank rank (tenRank 308)) (tenRank (exponent.natAbs - 308)))

@[simp]
theorem timesTenTo_zero (negative : Bool) (exponent : Int) :
    timesTenTo negative 0 exponent = zeroOf negative := by
  simp [timesTenTo]

namespace Numeral

/-- The number of the leading digits, and the power of ten that it is to be multiplied by. -/
def leading (numeral : Numeral) : Nat × Int :=
  let (whole, wholeLeft) := absorb 0 numeral.whole
  let (value, decimalsLeft) := absorb whole numeral.decimals
  (value, numeral.exponent + wholeLeft.length + decimalsLeft.length - numeral.decimals.length)

def stepwise (numeral : Numeral) : Binary64 :=
  timesTenTo numeral.negative (wholeRank numeral.leading.1) numeral.leading.2

end Numeral

inductive Rounding where
  | once
  | stepwise
  deriving DecidableEq

def Numeral.rounded : Rounding → Numeral → Binary64
  | .once => Numeral.value
  | .stepwise => Numeral.stepwise

end ReportCharts.Binary64
