import ReportCharts.Binary64.Numeral
import ReportCharts.Toml.Value

/-!
Scalars of TOML texts that stand without quotes: truth values, numbers, dates and times.
-/

namespace ReportCharts.Toml

/-- Digits without the underscores, each of which stands between two of them. -/
def digits? (test : Char → Bool) : List Char → Option (List Char)
  | [] => none
  | [c] => if test c then some [c] else none
  | c :: '_' :: rest => if test c then (digits? test rest).map (c :: ·) else none
  | c :: rest => if test c then (digits? test rest).map (c :: ·) else none

def isDigitOf (base : Nat) (c : Char) : Bool := (Text.digit? base c).isSome

def natural? (base : Nat) (text : List Char) : Option Nat := do
  Text.natural? base (← digits? (isDigitOf base) text)

def whole? (text : List Char) : Option (List Char) :=
  (digits? Char.isDigit text).filter fun digits => digits.length = 1 ∨ digits.head? ≠ some '0'

def integer? (text : List Char) : Option Int := do
  let value : Int ←
    match text with
    | '0' :: 'x' :: digits => (natural? 16 digits).map Int.ofNat
    | '0' :: 'o' :: digits => (natural? 8 digits).map Int.ofNat
    | '0' :: 'b' :: digits => (natural? 2 digits).map Int.ofNat
    | _ =>
        let (negative, digits) := Binary64.takeSign text
        let value ← Text.natural? 10 (← whole? digits)
        some (if negative then -(value : Int) else value)
  if Binary64.int64Min ≤ value ∧ value ≤ Binary64.int64Max then some value else none

def isExponentMark (c : Char) : Bool := c = 'e' || c = 'E'

def exponent? : List Char → Option (List Char)
  | [] => some []
  | mark :: rest =>
      let sign := if (Binary64.takeSign rest).1 then ['-'] else []
      if isExponentMark mark then
        (digits? Char.isDigit (Binary64.takeSign rest).2).map fun digits => mark :: sign ++ digits
      else none

def decimal? (text : List Char) : Option (List Char) :=
  let part (c : Char) : Bool := c.isDigit || c = '_'
  let tail := text.dropWhile part
  match whole? (text.takeWhile part), tail with
  | some _, [] => none
  | some whole, '.' :: rest => do
      let decimals ← digits? Char.isDigit (rest.takeWhile part)
      return whole ++ '.' :: decimals ++ (← exponent? (rest.dropWhile part))
  | some whole, tail => (exponent? tail).map (whole ++ ·)
  | none, _ => none

/-- A number that is not whole; it must not be too large, which only a negative one may be. -/
def float? (text : List Char) : Option Binary64 :=
  let (negative, rest) := Binary64.takeSign text
  if rest = ['i', 'n', 'f'] then some (.infinite negative)
  else if rest = ['n', 'a', 'n'] then some .nan
  else do
    let value ← Binary64.ofText? (Binary64.signed negative (← decimal? rest))
    if value = .infinite false then none else some value

def pair? (low high : Nat) (tens ones : Char) : Option Nat :=
  (Text.natural? 10 [tens, ones]).filter fun value => low ≤ value ∧ value ≤ high

def daysOf (year month : Nat) : Nat :=
  if month = 2 then
    if year % 4 = 0 ∧ (year % 100 ≠ 0 ∨ year % 400 = 0) then 29 else 28
  else if month = 4 ∨ month = 6 ∨ month = 9 ∨ month = 11 then 30
  else 31

def afterDate? : List Char → Option (List Char)
  | y₁ :: y₂ :: y₃ :: y₄ :: '-' :: m₁ :: m₂ :: '-' :: d₁ :: d₂ :: rest => do
      let year ← Text.natural? 10 [y₁, y₂, y₃, y₄]
      let month ← pair? 1 12 m₁ m₂
      let _ ← pair? 1 (daysOf year month) d₁ d₂
      return rest
  | _ => none

def afterFraction? : List Char → Option (List Char)
  | '.' :: rest => if rest.head?.any Char.isDigit then some (rest.dropWhile Char.isDigit) else none
  | text => some text

/-- Read a time of the day, up to a leap second. -/
def afterTime? : List Char → Option (List Char)
  | h₁ :: h₂ :: ':' :: m₁ :: m₂ :: ':' :: s₁ :: s₂ :: rest => do
      let _ ← pair? 0 23 h₁ h₂
      let _ ← pair? 0 59 m₁ m₂
      let _ ← pair? 0 60 s₁ s₂
      afterFraction? rest
  | _ => none

def isOffset : List Char → Bool
  | [] => true
  | ['Z'] => true
  | ['z'] => true
  | [sign, h₁, h₂, ':', m₁, m₂] =>
      (sign = '+' || sign = '-') && (pair? 0 23 h₁ h₂).isSome && (pair? 0 59 m₁ m₂).isSome
  | _ => false

/-- Whether a text is a time, a date, or both with an offset or without. -/
def isMoment (text : List Char) : Bool :=
  afterTime? text = some [] ||
    match afterDate? text with
    | none => false
    | some [] => true
    | some (mark :: rest) =>
        (mark = 'T' || mark = 't' || mark = ' ') && (afterTime? rest).any isOffset

def isWordChar (c : Char) : Bool :=
  c.isAlphanum || c = '+' || c = '-' || c = '_' || c = '.' || c = ':'

def Value.ofWord? (word : List Char) : Option Value :=
  if word = ['t', 'r', 'u', 'e'] then some (.bool true)
  else if word = ['f', 'a', 'l', 's', 'e'] then some (.bool false)
  else if isMoment word then some (.moment (String.ofList word))
  else ((integer? word).map .integer).or ((float? word).map .float)

/-- Split off a word; a date may be followed by a blank and a time. -/
def takeWord (text : List Char) : List Char × List Char :=
  let word := text.takeWhile isWordChar
  let rest := text.dropWhile isWordChar
  match rest with
  | ' ' :: behind =>
      if afterDate? word = some [] ∧ behind.head?.any Char.isDigit then
        (word ++ ' ' :: behind.takeWhile isWordChar, behind.dropWhile isWordChar)
      else (word, rest)
  | _ => (word, rest)

end ReportCharts.Toml
