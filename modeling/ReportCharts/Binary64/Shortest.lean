import ReportCharts.Binary64

/-!
The fewest decimal digits that read back as a given finite double.

The reals that round to a double form an interval around it, which holds its ends when the rank is
even. For one digit, two digits and so on, the two neighbours of the double on that decimal grid
are tried, and the first grid with a neighbour in the interval wins.
-/

namespace ReportCharts.Binary64

structure Decimal where
  coefficient : Nat
  exponent : Int
  deriving DecidableEq, Repr

inductive Tie where
  | up
  | even
  deriving DecidableEq

/-- The number `value * 10 ^ power` in units, as a quotient. -/
def scaled (value : Nat) (power : Int) : Nat × Nat :=
  if power < 0 then (value * unitsPerOne, Nat.pow 10 power.natAbs)
  else (value * unitsPerOne * Nat.pow 10 power.natAbs, 1)

/-- Twice the lower and the upper end of the interval of a rank, in units. -/
def doubledEnds (rank : Nat) : Nat × Nat :=
  (units (rank - 1) + units rank, units rank + units (rank + 1))

def readsBack (rank : Nat) (decimal : Decimal) : Bool :=
  let (numerator, denominator) := scaled decimal.coefficient decimal.exponent
  let (low, high) := doubledEnds rank
  if rank % 2 = 0 then low * denominator ≤ 2 * numerator ∧ 2 * numerator ≤ high * denominator
  else low * denominator < 2 * numerator ∧ 2 * numerator < high * denominator

/--
The least `p` with the value below `10 ^ p`.

The least positive double is above `10 ^ -400`, so shifting by 400 places leaves a whole part.
-/
def decimalPoint (rank : Nat) : Int :=
  (Nat.toDigits 10 (units rank * Nat.pow 10 400 / unitsPerOne)).length - 400

def gridRatio (rank : Nat) (power : Int) : Nat × Nat :=
  if power < 0 then (units rank * Nat.pow 10 power.natAbs, unitsPerOne)
  else (units rank, unitsPerOne * Nat.pow 10 power.natAbs)

def onGrid? (tie : Tie) (rank : Nat) (power : Int) : Option Decimal :=
  let (numerator, denominator) := gridRatio rank power
  let below : Decimal := ⟨numerator / denominator, power⟩
  let above : Decimal := ⟨numerator / denominator + 1, power⟩
  let twice := 2 * (numerator % denominator)
  if readsBack rank below then
    if readsBack rank above then
      if twice < denominator then some below
      else if twice > denominator then some above
      else match tie with
        | .up => some above
        | .even => some (if below.coefficient % 2 = 0 then below else above)
    else some below
  else if readsBack rank above then some above
  else none

/-- Try grids of `digits`, `digits + 1`, … places; 17 places always suffice. -/
def shortestFrom (tie : Tie) (rank : Nat) (point : Int) : (tries digits : Nat) → Decimal
  | 0, digits => ⟨(gridRatio rank (point - digits)).1 / (gridRatio rank (point - digits)).2,
      point - digits⟩
  | tries + 1, digits =>
      match onGrid? tie rank (point - digits) with
      | some decimal => decimal
      | none => shortestFrom tie rank point tries (digits + 1)

def trimZeros : (fuel : Nat) → Decimal → Decimal
  | 0, decimal => decimal
  | fuel + 1, decimal =>
      if decimal.coefficient ≠ 0 ∧ decimal.coefficient % 10 = 0 then
        trimZeros fuel ⟨decimal.coefficient / 10, decimal.exponent + 1⟩
      else decimal

def shortest (tie : Tie) (rank : Nat) : Decimal :=
  if rank = 0 then ⟨0, 0⟩
  else trimZeros 20 (shortestFrom tie rank (decimalPoint rank) 17 1)

end ReportCharts.Binary64
