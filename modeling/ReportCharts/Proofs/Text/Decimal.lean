import ReportCharts.Binary64.Numeral
import ReportCharts.Text.Digits

/-!
Decimal digits of natural numbers, as every format writes them, read back.

The digits are told from the other characters of a format by a test that these fail.
-/

namespace ReportCharts

theorem Text.ne_of_test {test : Char → Bool} {c : Char} (passed : test c = true) (d : Char)
    (failed : test d = false) : c ≠ d := by
  rintro rfl
  rw [passed] at failed
  cases failed

theorem Text.not_mem_of_test {test : Char → Bool} {word : List Char}
    (passed : ∀ c ∈ word, test c = true) (d : Char) (failed : test d = false) : d ∉ word :=
  fun mem => ne_of_test (passed d mem) d failed rfl

theorem Binary64.digitsValue_toDigits (value : Nat) :
    digitsValue (Nat.toDigits 10 value) = value := by
  have step : appendDigit = fun sofar digit => 10 * sofar + (digit.toNat - '0'.toNat) := by
    funext sofar digit
    rw [appendDigit, Nat.mul_comm]
  rw [digitsValue, step, ← Nat.ofDigitChars_eq_foldl, Nat.ofDigitChars_ten_toDigits]

theorem isDigit_of_mem_toDigits {value : Nat} {c : Char} (member : c ∈ Nat.toDigits 10 value) :
    c.isDigit = true :=
  Nat.isDigit_of_mem_toDigits (by decide) (by decide) member

/-- Only zero itself is written with a leading zero. -/
theorem toDigits_ne_zero_cons (value : Nat) (second : Char) (rest : List Char) :
    Nat.toDigits 10 value ≠ '0' :: second :: rest := by
  induction value using Nat.strongRecOn generalizing second rest with
  | _ value inductionHypothesis =>
      intro written
      by_cases small : value < 10
      · simp [Nat.toDigits_of_lt_base small] at written
      · have split := Nat.toDigits_of_base_le (b := 10) (by decide) (Nat.le_of_not_lt small)
        have shorter : value / 10 < value := by omega
        rw [written] at split
        match front : Nat.toDigits 10 (value / 10) with
        | [] => exact Nat.toDigits_ne_nil front
        | [only] =>
            rw [front] at split
            have zero : only = '0' := (List.cons.inj split).1.symm
            have spelled := Binary64.digitsValue_toDigits (value / 10)
            rw [front, zero] at spelled
            have : value / 10 = 0 := spelled.symm
            omega
        | first :: next :: others =>
            rw [front] at split
            have zero : first = '0' := (List.cons.inj split).1.symm
            exact inductionHypothesis _ shorter next others (by rw [front, zero])

theorem sub_zero_lt_ten_of_isDigit {c : Char} (digit : c.isDigit = true) :
    c.toNat - '0'.toNat < 10 := by
  have least : '0'.toNat = 48 := rfl
  have greatest : '9'.toNat = 57 := rfl
  obtain ⟨-, high⟩ := Char.isDigit_iff_toNat.mp digit
  omega

theorem toDigits_of_isDigit {c : Char} (digit : c.isDigit = true) :
    Nat.toDigits 10 (c.toNat - '0'.toNat) = [c] := by
  have least : '0'.toNat = 48 := rfl
  have small := sub_zero_lt_ten_of_isDigit digit
  obtain ⟨low, -⟩ := Char.isDigit_iff_toNat.mp digit
  have same : Nat.digitChar (c.toNat - '0'.toNat) = c := by
    apply Char.toNat_inj.mp
    rw [Nat.toNat_digitChar_of_lt_ten small]
    omega
  rw [Nat.toDigits_of_lt_base small, same]

theorem toDigits_foldl_appendDigit {digits : List Char} (all : ∀ c ∈ digits, c.isDigit = true)
    {sofar : Nat} (positive : 0 < sofar) :
    Nat.toDigits 10 (digits.foldl Binary64.appendDigit sofar) = Nat.toDigits 10 sofar ++ digits := by
  induction digits generalizing sofar with
  | nil => simp
  | cons c digits inductionHypothesis =>
      obtain ⟨digit, others⟩ := List.forall_mem_cons.mp all
      have small := sub_zero_lt_ten_of_isDigit digit
      have further : 0 < Binary64.appendDigit sofar c := by
        unfold Binary64.appendDigit
        omega
      have next : Nat.toDigits 10 (Binary64.appendDigit sofar c) = Nat.toDigits 10 sofar ++ [c] := by
        rw [← toDigits_of_isDigit digit, Nat.toDigits_append_toDigits (by decide) positive small,
          Nat.mul_comm]
        rfl
      rw [List.foldl_cons, inductionHypothesis others further, next, List.append_assoc]
      rfl

/-- Digits without a zero in vain before the others. -/
def PlainDigits (digits : List Char) : Prop := digits.head? ≠ some '0' ∨ digits = ['0']

theorem plainDigits_toDigits (value : Nat) : PlainDigits (Nat.toDigits 10 value) := by
  match written : Nat.toDigits 10 value with
  | [] => exact absurd written Nat.toDigits_ne_nil
  | [c] =>
      by_cases zero : c = '0'
      · exact .inr (by rw [zero])
      · exact .inl (by simpa using zero)
  | c :: second :: rest =>
      left
      intro zero
      obtain rfl := Option.some.inj zero
      exact toDigits_ne_zero_cons value second rest written

theorem toDigits_digitsValue {digits : List Char} (nonempty : digits ≠ [])
    (all : ∀ c ∈ digits, c.isDigit = true) (plain : PlainDigits digits) :
    Nat.toDigits 10 (Binary64.digitsValue digits) = digits := by
  obtain ⟨c, rest, rfl⟩ := List.exists_cons_of_ne_nil nonempty
  obtain ⟨digit, others⟩ := List.forall_mem_cons.mp all
  rcases plain with front | zero
  · have least : '0'.toNat = 48 := rfl
    have positive : 0 < c.toNat - '0'.toNat := by
      have low := (Char.isDigit_iff_toNat.mp digit).1
      have other : c.toNat ≠ '0'.toNat := fun same => front (congrArg some (Char.toNat_inj.mp same))
      omega
    have first : Binary64.appendDigit 0 c = c.toNat - '0'.toNat := by
      rw [Binary64.appendDigit, Nat.zero_mul, Nat.zero_add]
    rw [Binary64.digitsValue, List.foldl_cons, first, toDigits_foldl_appendDigit others positive,
      toDigits_of_isDigit digit]
    rfl
  · rw [zero]
    rfl

theorem Text.digit?_digitChar {digit : Nat} (small : digit < 10) :
    digit? 10 (Nat.digitChar digit) = some digit := by
  have all : ∀ digit < 10, digit? 10 (Nat.digitChar digit) = some digit := by decide
  exact all digit small

theorem Text.natural?_toDigits (value : Nat) :
    natural? 10 (Nat.toDigits 10 value) = some value := by
  induction value using Nat.strongRecOn with
  | _ value inductionHypothesis =>
      by_cases small : value < 10
      · rw [Nat.toDigits_of_lt_base small]
        simp [natural?, Text.digit?_digitChar small]
      · rw [Nat.toDigits_of_base_le (b := 10) (by decide) (Nat.le_of_not_lt small)]
        have front := inductionHypothesis (value / 10) (by omega)
        have last : digit? 10 (Nat.digitChar (value % 10)) = some (value % 10) :=
          Text.digit?_digitChar (by omega)
        rw [Text.natural?_append front last]
        congr 1
        omega

/-- A number behind a blank can be cut off again, since no digit is a blank. -/
theorem Text.append_blank_number_inj {front other : String} {first second : Nat}
    (same : front ++ " " ++ toString first = other ++ " " ++ toString second) :
    front = other ∧ first = second := by
  have noBlank (value : Nat) : ' ' ∉ Nat.toDigits 10 value :=
    not_mem_of_test (fun _ member => isDigit_of_mem_toDigits member) ' ' rfl
  have letters : front.toList ++ ' ' :: Nat.toDigits 10 first =
      other.toList ++ ' ' :: Nat.toDigits 10 second := by
    simpa [String.toList_append, toString, Nat.toList_repr] using congrArg String.toList same
  have digits : front.toList = other.toList ∧ Nat.toDigits 10 first = Nat.toDigits 10 second := by
    rcases List.append_eq_append_iff.mp letters with ⟨more, longer, rest⟩ | ⟨more, longer, rest⟩
    · cases more with
      | nil => simp_all
      | cons blank more =>
          obtain ⟨-, rest⟩ := List.cons.inj rest
          exact absurd (by simp [rest]) (noBlank first)
    · cases more with
      | nil => simp_all
      | cons blank more =>
          obtain ⟨-, rest⟩ := List.cons.inj rest
          exact absurd (by simp [rest]) (noBlank second)
  constructor
  · exact String.toList_inj.mp digits.1
  · have values := congrArg (natural? 10) digits.2
    rw [natural?_toDigits, natural?_toDigits] at values
    exact Option.some.inj values

end ReportCharts
