import ReportCharts.Proofs.Json.Spelling
import ReportCharts.Proofs.Text.Decimal

/-!
Compact texts of JSON values, read back as documents.

What is written for a value is one of its spellings, the one without blanks, so it is read as the
document of the value. Strings come back whatever characters they hold; numbers are integers of 64 bits.
-/

namespace ReportCharts.Json

open Document Grammar

theorem hexDigit?_digitChar {digit : Nat} (small : digit < 16) :
    Text.hexDigit? (Nat.digitChar digit) = some digit := by
  have all : ∀ digit < 16, Text.hexDigit? (Nat.digitChar digit) = some digit := by decide
  exact all digit small

/-- The last of the four digits of a code unit, whatever digits go before it. -/
def hexDigitOf (code : Nat) : HexDigit where
  char := Nat.digitChar (code % 16)
  value := code % 16
  reads := hexDigit?_digitChar (Nat.mod_lt _ (by decide))

/-- A written character is a piece, which stands for it. -/
theorem exists_piece (c : Char) : ∃ piece : Piece, piece.text = Value.escaped c ∧
    ∀ {pieces : List Lexeme} {text : List Char}, Spells pieces text →
      Spells (piece.lexeme :: pieces) (c :: text) := by
  unfold Value.escaped
  split
  · next quote => exact ⟨.escape '"' c (by rw [quote]; rfl), rfl, .plain c⟩
  split
  · next slash => exact ⟨.escape '\\' c (by rw [slash]; rfl), rfl, .plain c⟩
  split
  · next back => exact ⟨.escape 'b' c (by rw [back]; rfl), rfl, .plain c⟩
  split
  · next page => exact ⟨.escape 'f' c (by rw [page]; rfl), rfl, .plain c⟩
  split
  · next line => exact ⟨.escape 'n' c (by rw [line]; rfl), rfl, .plain c⟩
  split
  · next back => exact ⟨.escape 'r' c (by rw [back]; rfl), rfl, .plain c⟩
  split
  · next tab => exact ⟨.escape 't' c (by rw [tab]; rfl), rfl, .plain c⟩
  split
  · next control =>
      let digit (place : Nat) : HexDigit := hexDigitOf (c.toNat / place)
      let piece : Piece := .unit (digit 4096) (digit 256) (digit 16) (hexDigitOf c.toNat)
      have code : 4096 * (c.toNat / 4096 % 16) + 256 * (c.toNat / 256 % 16) +
          16 * (c.toNat / 16 % 16) + c.toNat % 16 = c.toNat := by omega
      have lexeme : piece.lexeme = .unit c.toNat := congrArg Lexeme.unit code
      refine ⟨piece, rfl, ?_⟩
      intro pieces text more
      have spells := Spells.unit (.inl (by omega : c.toNat < 0xd800)) more
      rwa [Char.ofNat_toNat, ← lexeme] at spells
  · next noQuote noSlash _ _ _ _ _ printable =>
      exact ⟨.plain c (by omega) noQuote noSlash, rfl, .plain c⟩

theorem exists_pieces (text : List Char) : ∃ pieces : List Piece,
    pieces.flatMap Piece.text = text.flatMap Value.escaped ∧ Spells (lexemesOf pieces) text := by
  induction text with
  | nil => exact ⟨[], rfl, .nil⟩
  | cons c text inductionHypothesis =>
      obtain ⟨pieces, written, spelled⟩ := inductionHypothesis
      obtain ⟨piece, writtenFirst, spells⟩ := exists_piece c
      exact ⟨piece :: pieces, by simp [writtenFirst, written], spells spelled⟩

theorem exists_quoted (text : String) :
    ∃ pieces, quoted pieces = Value.stringText text ∧ held pieces = .ok text := by
  obtain ⟨pieces, written, spelled⟩ := exists_pieces text.toList
  exact ⟨pieces, by rw [quoted, written, Value.stringText], held_eq_ok_iff.mpr spelled⟩

/-- Integers that a number of a JSON text can be. -/
def Fits (value : Int) : Prop := Binary64.int64Min ≤ value ∧ value < UInt64.size

instance (value : Int) : Decidable (Fits value) :=
  inferInstanceAs (Decidable (Binary64.int64Min ≤ value ∧ value < UInt64.size))

theorem Number.text_ofNat (value : Nat) : text (.int value) = Nat.toDigits 10 value := by
  rw [text, ← Nat.toList_repr]
  rfl

theorem Number.text_negative (value : Nat) :
    text (.int (-(value + 1 : Nat))) = '-' :: Nat.toDigits 10 (value + 1) := by
  rw [text]
  change ("-" ++ Nat.repr (value + 1)).toList = _
  rw [String.toList_append, Nat.toList_repr]
  rfl

def digitsOf (value : Nat) : Digits where
  text := Nat.toDigits 10 value
  nonempty := Nat.toDigits_ne_nil
  digits _ := isDigit_of_mem_toDigits

def numeralOf (negative : Bool) (magnitude : Nat) : Numeral where
  negative := negative
  whole := digitsOf magnitude
  canonical zero := by
    cases written : (digitsOf magnitude).text with
    | nil => exact absurd written (digitsOf magnitude).nonempty
    | cons c rest =>
        rw [written] at zero
        obtain rfl := Option.some.inj zero
        cases rest with
        | nil => rfl
        | cons next rest => exact absurd written (toDigits_ne_zero_cons magnitude next rest)
  decimals := none
  exponent := none

theorem numeralOf_literal (negative : Bool) (magnitude : Nat) :
    (numeralOf negative magnitude).literal = ⟨⟨negative, Nat.toDigits 10 magnitude, [], 0⟩, true⟩ :=
  rfl

theorem exists_numeral (rounding : Binary64.Rounding) {value : Int} (fits : Fits value) :
    ∃ numeral : Numeral, numeral.text = Number.text (.int value) ∧
      numeral.literal.value rounding = .ok (.int value) := by
  obtain ⟨low, high⟩ := fits
  by_cases negative : value < 0
  · obtain ⟨magnitude, rfl⟩ : ∃ magnitude : Nat, value = -(magnitude + 1 : Nat) :=
      ⟨value.natAbs - 1, by omega⟩
    refine ⟨numeralOf true (magnitude + 1), ?_, ?_⟩
    · rw [Number.text_negative]
      simp [Numeral.text, numeralOf, digitsOf, Numeral.decimalsText, Numeral.exponentText]
    · simp only [numeralOf_literal, Literal.value, Binary64.digitsValue_toDigits]
      rw [if_neg (by simp), if_pos ⟨trivial, trivial, by omega, low⟩]
  · obtain ⟨magnitude, rfl⟩ := Int.eq_ofNat_of_zero_le (Int.not_lt.mp negative)
    have small : magnitude < UInt64.size := by omega
    refine ⟨numeralOf false magnitude, ?_, ?_⟩
    · rw [Number.text_ofNat]
      simp [Numeral.text, numeralOf, digitsOf, Numeral.decimalsText, Numeral.exponentText]
    · simp [numeralOf_literal, Literal.value, Binary64.digitsValue_toDigits, small]

namespace Value

mutual

def Whole : Value → Prop
  | .number (.int value) => Fits value
  | .number (.float _) => False
  | .array items => ItemsWhole items
  | .object members => MembersWhole members
  | _ => True

def ItemsWhole : List Value → Prop
  | [] => True
  | item :: rest => item.Whole ∧ ItemsWhole rest

def MembersWhole : List (String × Value) → Prop
  | [] => True
  | (_, value) :: rest => value.Whole ∧ MembersWhole rest

end

-- The induction is on the value; what is written has no blanks, so all that is left to choose is how
-- strings and numbers are spelled.
mutual

/-- What is written for a value is one of its spellings. -/
theorem exists_spelling (rounding : Binary64.Rounding) : ∀ value : Value, value.Whole →
    ∃ spelling : Spelling, spelling.text = value.text ∧
      spelling.document rounding = value.document
  | .null, _ => ⟨.null, by simp [Spelling.text, text], rfl⟩
  | .bool true, _ => ⟨.bool true, by simp [Spelling.text, text], rfl⟩
  | .bool false, _ => ⟨.bool false, by simp [Spelling.text, text], rfl⟩
  | .number (.float _), whole => whole.elim
  | .number (.int value), fits => by
      obtain ⟨numeral, written, read⟩ := exists_numeral rounding fits
      exact ⟨.number numeral, by rw [Spelling.text, written, text],
        by rw [Spelling.document, read, document]⟩
  | .string value, _ => by
      obtain ⟨pieces, written, read⟩ := exists_quoted value
      exact ⟨.string pieces, by rw [Spelling.text, written, text],
        by rw [Spelling.document, read, document]⟩
  | .array items, whole => by
      obtain ⟨padded, written, -, read⟩ := exists_itemSpellings rounding items whole
      exact ⟨.array .none padded, by rw [Spelling.text, written, text]; rfl,
        by rw [Spelling.document, read, document]⟩
  | .object members, whole => by
      obtain ⟨padded, written, -, read⟩ := exists_memberSpellings rounding members whole
      exact ⟨.object .none padded, by rw [Spelling.text, written, text]; rfl,
        by rw [Spelling.document, read, document]⟩

theorem exists_itemSpellings (rounding : Binary64.Rounding) : ∀ items, ItemsWhole items →
    ∃ padded, Spelling.itemsText true padded = itemsText items ∧
      Spelling.itemsText false padded = moreItemsText items ∧
      Spelling.itemDocuments rounding padded = itemDocuments items
  | [], _ => ⟨[], rfl, rfl, rfl⟩
  | item :: items, whole => by
      obtain ⟨spelling, written, read⟩ := exists_spelling rounding item whole.1
      obtain ⟨padded, -, writtenMore, readMore⟩ := exists_itemSpellings rounding items whole.2
      refine ⟨⟨.none, spelling, .none⟩ :: padded, ?_, ?_, ?_⟩
      · rw [Spelling.itemsText, written, writtenMore, itemsText]
        rfl
      · rw [Spelling.itemsText, written, writtenMore, moreItemsText]
        rfl
      · rw [Spelling.itemDocuments, read, readMore, itemDocuments]

theorem exists_memberSpellings (rounding : Binary64.Rounding) : ∀ members, MembersWhole members →
    ∃ padded, Spelling.membersText true padded = membersText members ∧
      Spelling.membersText false padded = moreMembersText members ∧
      Spelling.memberDocuments rounding padded = memberDocuments members
  | [], _ => ⟨[], rfl, rfl, rfl⟩
  | (key, value) :: members, whole => by
      obtain ⟨pieces, writtenKey, readKey⟩ := exists_quoted key
      obtain ⟨spelling, written, read⟩ := exists_spelling rounding value whole.1
      obtain ⟨padded, -, writtenMore, readMore⟩ := exists_memberSpellings rounding members whole.2
      refine ⟨⟨.none, ⟨pieces, .none, .none, spelling⟩, .none⟩ :: padded, ?_, ?_, ?_⟩
      · rw [Spelling.membersText, writtenKey, written, writtenMore, membersText]
        rfl
      · rw [Spelling.membersText, writtenKey, written, writtenMore, moreMembersText]
        rfl
      · rw [Spelling.memberDocuments, readKey, read, readMore, memberDocuments]

end

theorem text_eq_cons {value : Value} (whole : value.Whole) :
    ∃ c rest, value.text = c :: rest ∧ Begins c := by
  obtain ⟨spelling, written, -⟩ := exists_spelling .stepwise value whole
  rw [← written]
  exact spelling.text_eq_cons

end Value

theorem ofText_text (rounding : Binary64.Rounding) {value : Value} (whole : value.Whole) :
    Document.ofText rounding value.text = (value.document, []) := by
  obtain ⟨spelling, written, read⟩ := Value.exists_spelling rounding value whole
  have taken := spelling.readValue_text rounding (3 * spelling.text.length + 3) [] trivial
    (Nat.le_add_right _ 3)
  rwa [List.append_nil, written, read] at taken

end ReportCharts.Json
