import ReportCharts.Binary64.Nearest
import ReportCharts.Binary64.Shortest

/-!
Doubles as text.

`plain` writes the shortest digits positionally, without an exponent; `scientific` is the form used
inside data texts, which keeps a point and turns to an exponent for very large and very small
numbers. `ofText?` reads a sign, digits with an optional point and exponent, or the names of
infinity and of the absence of a number.
-/

namespace ReportCharts.Binary64

def digitsOf (value : Nat) : List Char := Nat.toDigits 10 value

/-- Digits with the point moved `exponent` places to the right. -/
def positional (decimal : Decimal) : List Char :=
  let digits := digitsOf decimal.coefficient
  let places := decimal.exponent.natAbs
  if 0 ≤ decimal.exponent then digits ++ List.replicate places '0'
  else if places < digits.length then
    digits.take (digits.length - places) ++ '.' :: digits.drop (digits.length - places)
  else '0' :: '.' :: (List.replicate (places - digits.length) '0' ++ digits)

def signed (negative : Bool) (text : List Char) : List Char :=
  if negative then '-' :: text else text

/-- The shortest positional text that reads back; a half goes away from zero. -/
def plain : Binary64 → String
  | .nan => "NaN"
  | .infinite negative => String.ofList (signed negative "inf".toList)
  | .finite negative rank => String.ofList (signed negative (positional (shortest .up rank)))

def pointed (number : Binary64) : String :=
  if number.plain.toList.contains '.' then number.plain else number.plain ++ ".0"

def leadingPoint : List Char → List Char
  | first :: second :: rest => first :: '.' :: second :: rest
  | digits => digits

def signedExponent (exponent : Int) : List Char :=
  (if exponent < 0 then '-' else '+') :: digitsOf exponent.natAbs

/--
Text of a finite number inside a data text.

The number is positional from `10 ^ -5` up to below `10 ^ 16` and has an exponent with its sign
elsewhere; a half goes to the even digit.
-/
def scientific (negative : Bool) (rank : Nat) : List Char :=
  let decimal := shortest .even rank
  let digits := digitsOf decimal.coefficient
  let point : Int := digits.length + decimal.exponent
  signed negative <|
    if -5 < point ∧ point ≤ 16 then
      if 0 ≤ decimal.exponent then positional decimal ++ ".0".toList else positional decimal
    else leadingPoint digits ++ 'e' :: signedExponent (point - 1)

def appendDigit (value : Nat) (digit : Char) : Nat := value * 10 + (digit.toNat - '0'.toNat)

def digitsValue (digits : List Char) : Nat := digits.foldl appendDigit 0

structure Numeral where
  negative : Bool
  whole : List Char
  decimals : List Char
  exponent : Int
  deriving DecidableEq

def Numeral.value (numeral : Numeral) : Binary64 :=
  ofDecimal numeral.negative (digitsValue (numeral.whole ++ numeral.decimals))
    (numeral.exponent - numeral.decimals.length)

/-- Split off a leading sign; the flag tells whether it was a minus. -/
def takeSign : List Char → Bool × List Char
  | '-' :: rest => (true, rest)
  | '+' :: rest => (false, rest)
  | text => (false, text)

def exponentPart? : List Char → Option Int
  | [] => some 0
  | mark :: rest =>
      let (negative, digits) := takeSign rest
      if (mark = 'e' ∨ mark = 'E') ∧ digits ≠ [] ∧ digits.all Char.isDigit then
        some (if negative then -(digitsValue digits : Int) else digitsValue digits)
      else none

def unsignedNumeral? (negative : Bool) (text : List Char) : Option Numeral :=
  let whole := text.takeWhile Char.isDigit
  let (decimals, tail) :=
    match text.dropWhile Char.isDigit with
    | '.' :: rest => (rest.takeWhile Char.isDigit, rest.dropWhile Char.isDigit)
    | rest => ([], rest)
  if whole = [] ∧ decimals = [] then none
  else (exponentPart? tail).map fun exponent => ⟨negative, whole, decimals, exponent⟩

/-- Read a number: a numeral, or a name of infinity or of no number in any case. -/
def ofText? (text : List Char) : Option Binary64 :=
  let (negative, rest) := takeSign text
  match rest.map Char.toLower with
  | ['i', 'n', 'f'] => some (.infinite negative)
  | ['i', 'n', 'f', 'i', 'n', 'i', 't', 'y'] => some (.infinite negative)
  | ['n', 'a', 'n'] => some .nan
  | _ => (unsignedNumeral? negative rest).map Numeral.value

end ReportCharts.Binary64
