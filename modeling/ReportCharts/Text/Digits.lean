/-!
Natural numbers written in digits, and characters of code points.
-/

namespace ReportCharts.Text

def hexDigit? (c : Char) : Option Nat :=
  if c.isDigit then some (c.toNat - '0'.toNat)
  else if 'a' ≤ c ∧ c ≤ 'f' then some (c.toNat - 'a'.toNat + 10)
  else if 'A' ≤ c ∧ c ≤ 'F' then some (c.toNat - 'A'.toNat + 10)
  else none

def digit? (base : Nat) (c : Char) : Option Nat := (hexDigit? c).filter (· < base)

/-- The number written in digits of a base, of which there must be one. -/
def natural? (base : Nat) (digits : List Char) : Option Nat :=
  if digits.isEmpty then none
  else digits.foldlM (fun value c => (digit? base c).map (base * value + ·)) 0

/-- The character of a code point; surrogates have none. -/
def scalar? (code : Nat) : Option Char :=
  if code < 0xd800 ∨ (0xdfff < code ∧ code ≤ 0x10ffff) then some (Char.ofNat code) else none

theorem natural?_append {base value digit : Nat} {digits : List Char} {c : Char}
    (front : natural? base digits = some value) (last : digit? base c = some digit) :
    natural? base (digits ++ [c]) = some (base * value + digit) := by
  unfold natural? at front ⊢
  split at front
  · contradiction
  · simp [front, last]

end ReportCharts.Text
