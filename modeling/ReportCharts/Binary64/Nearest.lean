import ReportCharts.Binary64

/-!
Rounding an exact quantity to the nearest double, ties to the even rank.

`nearestRank` rounds a quotient of naturals counted in units; integers and decimal numerals are
rounded through it, so each is rounded once.
-/

namespace ReportCharts.Binary64

def divideToEven (numerator denominator : Nat) : Nat :=
  let quotient := numerator / denominator
  let twice := 2 * (numerator % denominator)
  if twice < denominator then quotient
  else if twice > denominator then quotient + 1
  else quotient + quotient % 2

/-- Low binary places of a quotient that a double of its magnitude cannot hold. -/
def excessBits (numerator denominator : Nat) : Nat :=
  (numerator / denominator).log2 - fraction

/--
The rank nearest to a quotient counted in units.

With `s` excess bits the rounded significand `m` has rank `s * 2 ^ 52 + m`, and a significand that
rounding carries to `2 ^ 53` lands on the first rank of the next binade.
-/
def nearestRank (numerator denominator : Nat) : Nat :=
  let excess := excessBits numerator denominator
  excess * significands + divideToEven numerator (denominator * Nat.pow 2 excess)

/-- The double of a sign and a rank; ranks past the last finite one are infinite. -/
def ofRank (negative : Bool) (rank : Nat) : Binary64 :=
  if inRange : rank < ranks then .finite negative ⟨rank, inRange⟩ else .infinite negative

def ofRatio (negative : Bool) (numerator denominator : Nat) : Binary64 :=
  ofRank negative (nearestRank (numerator * unitsPerOne) denominator)

def ofInt (value : Int) : Binary64 :=
  ofRatio (value < 0) value.natAbs 1

def decimalWidth (value : Nat) : Nat := (Nat.toDigits 10 value).length

/--
The double nearest to `coefficient * 10 ^ exponent`.

A value of `10 ^ 310` or more is past every finite double and one below `10 ^ -330` is nearer to
zero than to any other, so powers are formed only between these.
-/
def ofDecimal (negative : Bool) (coefficient : Nat) (exponent : Int) : Binary64 :=
  if coefficient = 0 then zeroOf negative
  else
    let top := exponent + decimalWidth coefficient
    if top > 310 then .infinite negative
    else if top < -330 then zeroOf negative
    else if exponent < 0 then ofRatio negative coefficient (Nat.pow 10 exponent.natAbs)
    else ofRatio negative (coefficient * Nat.pow 10 exponent.natAbs) 1

@[simp]
theorem ofDecimal_zero (negative : Bool) (exponent : Int) :
    ofDecimal negative 0 exponent = zeroOf negative := by
  simp [ofDecimal]

theorem divideToEven_one (numerator : Nat) : divideToEven numerator 1 = numerator := by
  simp [divideToEven, Nat.mod_one]

end ReportCharts.Binary64
