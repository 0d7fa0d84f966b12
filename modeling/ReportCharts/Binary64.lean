/-!
Double-precision numbers as exact data.

The finite numbers of one sign are numbered by rank, from zero to the largest; every one of them is
a whole number of units of `2 ^ -1074`. Chart data is never calculated with, so the type carries no
arithmetic: it is read, compared, clamped to an integer and written.
-/

namespace ReportCharts

/--
A double; the `2047 * 2 ^ 52` finite ones of each sign are told apart by their rank in order of
magnitude.
-/
inductive Binary64 where
  | nan
  | infinite (negative : Bool)
  | finite (negative : Bool) (rank : Fin 0x7ff0000000000000)
  deriving DecidableEq

namespace Binary64

/-- Bits of a normal significand behind the leading one. -/
def fraction : Nat := 52

def significands : Nat := Nat.pow 2 fraction

/-- Number of finite ranks of one sign. -/
def ranks : Nat := 0x7ff0000000000000

def unitsPerOne : Nat := Nat.pow 2 1074

def units (rank : Nat) : Nat :=
  if rank < significands then rank
  else (significands + rank % significands) * Nat.pow 2 (rank / significands - 1)

def zeroOf (negative : Bool) : Binary64 := .finite negative 0

def zero : Binary64 := zeroOf false

def negativeZero : Binary64 := zeroOf true

instance : Inhabited Binary64 := ⟨zero⟩

def isFinite : Binary64 → Bool
  | .finite _ _ => true
  | _ => false

def wholeMagnitude? (rank : Nat) : Option Nat :=
  if units rank % unitsPerOne = 0 then some (units rank / unitsPerOne) else none

/-- The integer equal to a finite number without fractional part; both zeros give 0. -/
def toInt? : Binary64 → Option Int
  | .finite negative rank =>
      (wholeMagnitude? rank).map fun magnitude =>
        if negative then -(magnitude : Int) else magnitude
  | _ => none

def clamp (low high value : Int) : Int := max low (min high value)

def int64Min : Int := -9223372036854775808

def int64Max : Int := 9223372036854775807

@[simp]
theorem units_of_lt {rank : Nat} (small : rank < significands) : units rank = rank := by
  simp [units, small]

theorem clamp_mem (low high value : Int) (ordered : low ≤ high) :
    low ≤ clamp low high value ∧ clamp low high value ≤ high := by
  unfold clamp
  omega

end Binary64

end ReportCharts
