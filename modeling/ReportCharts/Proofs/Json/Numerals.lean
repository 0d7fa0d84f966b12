import ReportCharts.Cell
import ReportCharts.Proofs.Binary64.Integers
import ReportCharts.Proofs.Json.Text

/-!
Numbers of JSON texts, read as texts of their own.

The grammar of JSON numbers is a part of what a number read from a text may look like, so such a text,
with white space around it or without, counts as the double nearest to what it spells. A JSON reader that
rounds once makes the same double of it, whether it takes the number for an integer or not.
-/

namespace ReportCharts

namespace Text

/-- Characters of seven bits that are neither blank nor controls. -/
def IsGraphic (c : Char) : Prop := 0x20 < c.toNat ∧ c.toNat < 0x7f

instance (c : Char) : Decidable (IsGraphic c) :=
  inferInstanceAs (Decidable (0x20 < c.toNat ∧ c.toNat < 0x7f))

theorem IsGraphic.not_isBlank {c : Char} (graphic : IsGraphic c) : isBlank c = false := by
  obtain ⟨low, high⟩ := graphic
  simp only [isBlank, inRanges, blankRanges, List.any_cons, List.any_nil, Bool.or_eq_false_iff,
    Bool.and_eq_false_iff, decide_eq_false_iff_not, and_true]
  omega

theorem isGraphic_of_isDigit {c : Char} (digit : c.isDigit = true) : IsGraphic c := by
  obtain ⟨low, high⟩ := Char.isDigit_iff_toNat.mp digit
  have least : 0x20 < '0'.toNat := by decide
  have greatest : '9'.toNat < 0x7f := by decide
  exact ⟨by omega, by omega⟩

theorem dropWhile_isBlank_append {blanks text : List Char}
    (blank : ∀ c ∈ blanks, isBlank c = true) (visible : ∀ c ∈ text, isBlank c = false)
    (nonempty : text ≠ []) (behind : List Char) :
    (blanks ++ (text ++ behind)).dropWhile isBlank = text ++ behind := by
  obtain ⟨c, rest, rfl⟩ := List.exists_cons_of_ne_nil nonempty
  have stops : isBlank c = false := visible c (List.mem_cons_self ..)
  rw [List.dropWhile_append_of_pos blank, List.cons_append, List.dropWhile_cons_of_neg (by simp [stops])]

theorem trim_append {left text right : List Char} (blankLeft : ∀ c ∈ left, isBlank c = true)
    (blankRight : ∀ c ∈ right, isBlank c = true) (visible : ∀ c ∈ text, isBlank c = false)
    (nonempty : text ≠ []) : trim (left ++ text ++ right) = text := by
  have front := dropWhile_isBlank_append blankLeft visible nonempty right
  have blankBack : ∀ c ∈ right.reverse, isBlank c = true := by simpa using blankRight
  have visibleBack : ∀ c ∈ text.reverse, isBlank c = false := by simpa using visible
  have back := dropWhile_isBlank_append blankBack visibleBack (by simpa using nonempty) []
  rw [List.append_nil] at back
  rw [trim, List.append_assoc, front, List.reverse_append, back, List.reverse_reverse]

end Text

namespace Binary64

theorem ofDecimal_whole (negative : Bool) {magnitude : Nat} (positive : 0 < magnitude)
    (small : magnitude < UInt64.size) :
    ofDecimal negative magnitude 0 = ofRatio negative magnitude 1 := by
  have limit : UInt64.size < 10 ^ 20 := by decide
  have width : decimalWidth magnitude ≤ 20 :=
    (Nat.length_toDigits_le_iff (by decide) (by decide)).mpr (Nat.lt_trans small limit)
  have nonzero : magnitude ≠ 0 := by omega
  have notHigh : ¬(0 : Int) + decimalWidth magnitude > 310 := by omega
  have notLow : ¬(0 : Int) + decimalWidth magnitude < -330 := by omega
  rw [ofDecimal, if_neg nonzero]
  simp only [if_neg notHigh, if_neg notLow]
  rw [if_neg (by decide)]
  simp

theorem ofDecimal_natCast {magnitude : Nat} (small : magnitude < UInt64.size) :
    ofDecimal false magnitude 0 = ofInt magnitude := by
  by_cases zero : magnitude = 0
  · rw [zero, ofDecimal_zero]
    exact ofInt_zero.symm
  · rw [ofDecimal_whole false (by omega) small]
    rfl

theorem ofDecimal_neg_natCast {magnitude : Nat} (positive : 0 < magnitude)
    (small : magnitude < UInt64.size) : ofDecimal true magnitude 0 = ofInt (-magnitude) := by
  have below : -(magnitude : Int) < 0 := by omega
  rw [ofDecimal_whole true positive small, ofInt, Int.natAbs_neg, Int.natAbs_natCast,
    decide_eq_true below]

theorem toLower_of_isDigit {c : Char} (digit : c.isDigit = true) : c.toLower = c := by
  have notCapital : ¬(c.val ≥ 'A'.val ∧ c.val ≤ 'Z'.val) := by
    rintro ⟨least, -⟩
    have low : 'A'.toNat ≤ c.toNat := UInt32.le_iff_toNat_le.mp least
    have high := (Char.isDigit_iff_toNat.mp digit).2
    have order : '9'.toNat < 'A'.toNat := by decide
    omega
  exact dif_neg notCapital

/-- What begins with a digit is no name of infinity or of the absence of a number. -/
theorem ofText?_of_isDigit {text : List Char} {negative : Bool} {c : Char} {rest : List Char}
    (signed : takeSign text = (negative, c :: rest)) (digit : c.isDigit = true) :
    ofText? text = (unsignedNumeral? negative (c :: rest)).map Numeral.value := by
  have letter (d : Char) (other : d.isDigit = false) : c.toLower ≠ d := by
    rw [toLower_of_isDigit digit]
    exact Text.ne_of_test digit d other
  simp only [ofText?, signed, List.map_cons]
  split
  · next same => exact absurd (List.cons.inj same).1 (letter 'i' rfl)
  · next same => exact absurd (List.cons.inj same).1 (letter 'i' rfl)
  · next same => exact absurd (List.cons.inj same).1 (letter 'n' rfl)
  · rfl

end Binary64

namespace Json.Grammar.Numeral

open Document

theorem exponentPart?_exponentText (exponent : Option Exponent) :
    Binary64.exponentPart? (exponentText exponent) = some (exponentOf exponent) := by
  cases exponent with
  | none => rfl
  | some exponent =>
      obtain ⟨mark, marks, sign, digits⟩ := exponent
      have signed := takeSign_sign sign digits []
      rw [List.append_nil] at signed
      have letter : mark = 'e' ∨ mark = 'E' := by simpa using marks
      have all : digits.text.all Char.isDigit = true := List.all_eq_true.mpr digits.digits
      simp only [exponentText, Exponent.text, Binary64.exponentPart?, signed]
      rw [if_pos ⟨letter, digits.nonempty, all⟩]
      rfl

/-- The part behind the sign is a numeral to every reader. -/
theorem unsignedNumeral?_text (numeral : Numeral) :
    Binary64.unsignedNumeral? numeral.negative
        (numeral.whole.text ++ (decimalsText numeral.decimals ++ exponentText numeral.exponent)) =
      some numeral.literal.numeral := by
  obtain ⟨negative, whole, canonical, decimals, exponent⟩ := numeral
  have behind := exponentText_append_head exponent (show EndsNumber [] from trivial)
  rw [List.append_nil] at behind
  have read := exponentPart?_exponentText exponent
  have nonempty := whole.nonempty
  cases decimals with
  | none =>
      obtain ⟨taken, dropped⟩ := takeWhile_isDigit_append whole.digits fun c here => (behind c here).1
      have noPoint : ∀ rest, exponentText exponent ≠ '.' :: rest := by
        intro rest begins
        rw [begins] at behind
        exact (behind '.' rfl).2 rfl
      simp only [decimalsText, List.nil_append, Binary64.unsignedNumeral?, taken, dropped]
      rw [if_neg (fun empty => nonempty empty.1), read]
      rfl
  | some decimals =>
      have point : ∀ c ∈ ('.' :: (decimals.text ++ exponentText exponent)).head?,
          c.isDigit = false := by
        intro c here
        obtain rfl := Option.some.inj here
        rfl
      obtain ⟨taken, dropped⟩ := takeWhile_isDigit_append whole.digits point
      obtain ⟨takenMore, droppedMore⟩ :=
        takeWhile_isDigit_append decimals.digits fun c here => (behind c here).1
      simp only [decimalsText, List.cons_append, Binary64.unsignedNumeral?, taken, dropped,
        takenMore, droppedMore]
      rw [if_neg (fun empty => nonempty empty.1), read]
      rfl

/-- A number of a JSON text is the same numeral as a text of its own. -/
theorem ofText?_text (numeral : Numeral) :
    Binary64.ofText? numeral.text = some numeral.literal.numeral.value := by
  obtain ⟨c, rest, written, digit⟩ := numeral.whole.exists_cons
  have unsigned := numeral.unsignedNumeral?_text
  have notSign (sign : Char) (other : sign.isDigit = false) : c ≠ sign :=
    Text.ne_of_test digit sign other
  have signed : Binary64.takeSign numeral.text = (numeral.negative, numeral.whole.text ++
      (decimalsText numeral.decimals ++ exponentText numeral.exponent)) := by
    rw [text]
    cases numeral.negative with
    | true => rfl
    | false => simp [written, Binary64.takeSign, notSign '-' rfl, notSign '+' rfl]
  rw [written, List.cons_append] at signed unsigned
  rw [Binary64.ofText?_of_isDigit signed digit, unsigned, Option.map_some]

theorem isGraphic_of_mem (numeral : Numeral) : ∀ c ∈ numeral.text, Text.IsGraphic c := by
  obtain ⟨negative, whole, canonical, decimals, exponent⟩ := numeral
  have digit (digits : Digits) : ∀ c ∈ digits.text, Text.IsGraphic c :=
    fun c member => Text.isGraphic_of_isDigit (digits.digits c member)
  have sign : ∀ c ∈ (if negative then ['-'] else []), Text.IsGraphic c := by
    cases negative <;> simp [Text.IsGraphic]
  have point : ∀ c ∈ decimalsText decimals, Text.IsGraphic c := by
    cases decimals with
    | none => exact nofun
    | some decimals => exact List.forall_mem_cons.mpr ⟨by decide, digit decimals⟩
  have scale : ∀ c ∈ exponentText exponent, Text.IsGraphic c := by
    cases exponent with
    | none => exact nofun
    | some exponent =>
        have marks : ∀ c ∈ ['e', 'E'], Text.IsGraphic c := by simp [Text.IsGraphic]
        have signs : ∀ c ∈ exponent.sign.text, Text.IsGraphic c := by
          cases exponent.sign <;> simp [Sign.text, Text.IsGraphic]
        refine List.forall_mem_cons.mpr ⟨marks _ exponent.marks, ?_⟩
        exact List.forall_mem_append.mpr ⟨signs, digit exponent.digits⟩
  simp only [text, List.forall_mem_append]
  exact ⟨sign, digit whole, point, scale⟩

/-- White space around a number does not change what it counts as. -/
theorem count_text (numeral : Numeral) {left right : List Char} {content : String}
    (blankLeft : ∀ c ∈ left, Text.isBlank c = true) (blankRight : ∀ c ∈ right, Text.isBlank c = true)
    (padded : content.toList = left ++ numeral.text ++ right) :
    (Cell.text content).count = numeral.literal.numeral.value := by
  obtain ⟨c, rest, written, -⟩ := numeral.exists_cons
  have visible : ∀ c ∈ numeral.text, Text.isBlank c = false :=
    fun c member => (numeral.isGraphic_of_mem c member).not_isBlank
  rw [Cell.count, padded, Text.trim_append blankLeft blankRight visible (by rw [written]; nofun),
    ofText?_text, Option.getD_some]

theorem value_of_integral {numeral : Numeral} (integral : numeral.literal.integral = true) :
    numeral.literal.numeral.value =
      Binary64.ofDecimal numeral.literal.numeral.negative
        (Binary64.digitsValue numeral.literal.numeral.whole) 0 := by
  obtain ⟨negative, whole, canonical, decimals, exponent⟩ := numeral
  obtain ⟨noDecimals, noExponent⟩ := Bool.and_eq_true_iff.mp integral
  obtain rfl := Option.isNone_iff_eq_none.mp noDecimals
  obtain rfl := Option.isNone_iff_eq_none.mp noExponent
  simp [literal, Binary64.Numeral.value, exponentOf]

theorem toBinary64_of_value {numeral : Numeral} {number : Number}
    (read : numeral.literal.value .once = .ok number) :
    number.toBinary64 = numeral.literal.numeral.value := by
  simp only [Literal.value] at read
  split at read
  · next natural =>
      obtain ⟨integral, positive, small⟩ := natural
      obtain rfl := Except.ok.inj read
      rw [value_of_integral integral, Bool.eq_false_iff.mpr positive]
      exact (Binary64.ofDecimal_natCast small).symm
  split at read
  · next negative =>
      obtain ⟨integral, minus, positive, low⟩ := negative
      have small : Binary64.digitsValue numeral.literal.numeral.whole < UInt64.size := by
        have limit : -Binary64.int64Min < UInt64.size := by decide
        omega
      obtain rfl := Except.ok.inj read
      rw [value_of_integral integral, minus]
      exact (Binary64.ofDecimal_neg_natCast positive small).symm
  split at read
  · obtain rfl := Except.ok.inj read
    rfl
  · cases read

end Json.Grammar.Numeral

/-- An integer of 64 bits that is written out counts as the double nearest to it. -/
theorem Cell.count_toString {value : Int} (fits : Json.Fits value) :
    (Cell.text (toString value)).count = Binary64.ofInt value := by
  obtain ⟨numeral, written, read⟩ := Json.exists_numeral .once fits
  have alone : (toString value).toList = [] ++ numeral.text ++ [] := by
    rw [List.nil_append, List.append_nil, written]
    rfl
  have nothing : ∀ c ∈ ([] : List Char), Text.isBlank c = true := nofun
  rw [numeral.count_text nothing nothing alone, ← Json.Grammar.Numeral.toBinary64_of_value read]
  rfl

end ReportCharts
