import ReportCharts.Proofs.Json.Collected

/-!
The grammar of JSON texts, with blanks between the tokens.

A spelling is a text that is taken apart; every JSON text is the text of one. Reading takes up exactly
the text of a spelling, whatever its strings and numbers are, and skipping finds no fault in it.
-/

namespace ReportCharts.Json

open Document

/-- The characters that lexemes stand for; two surrogates stand for one character. -/
inductive Document.Spells : List Lexeme → List Char → Prop
  | nil : Spells [] []
  | plain (c : Char) {pieces : List Lexeme} {text : List Char} (more : Spells pieces text) :
      Spells (.plain c :: pieces) (c :: text)
  | unit {code : Nat} (single : code < 0xd800 ∨ 0xdfff < code) {pieces : List Lexeme}
      {text : List Char} (more : Spells pieces text) :
      Spells (.unit code :: pieces) (Char.ofNat code :: text)
  | pair {high low : Nat} (leading : 0xd800 ≤ high ∧ high ≤ 0xdbff)
      (trailing : 0xdc00 ≤ low ∧ low ≤ 0xdfff) {pieces : List Lexeme} {text : List Char}
      (more : Spells pieces text) :
      Spells (.unit high :: .unit low :: pieces)
        (Char.ofNat (0x10000 + (high - 0xd800) * 0x400 + (low - 0xdc00)) :: text)

theorem isLeading_eq_true_iff {code : Nat} :
    isLeading code = true ↔ 0xd800 ≤ code ∧ code ≤ 0xdbff := by
  simp [isLeading]

theorem isTrailing_eq_true_iff {code : Nat} :
    isTrailing code = true ↔ 0xdc00 ≤ code ∧ code ≤ 0xdfff := by
  simp [isTrailing]

theorem Document.Spells.characters {pieces : List Lexeme} {text : List Char}
    (spells : Spells pieces text) (rest : List Char) :
    characters (.closed rest) pieces = .ok text := by
  induction spells with
  | nil => rfl
  | plain c more inductionHypothesis =>
      rw [Document.characters, inductionHypothesis]
      rfl
  | @unit code single pieces text more inductionHypothesis =>
      have notTrailing : ¬isTrailing code = true := by
        rw [isTrailing_eq_true_iff]
        omega
      have notLeading : ¬isLeading code = true := by
        rw [isLeading_eq_true_iff]
        omega
      rw [Document.characters.eq_def]
      simp only [if_neg notTrailing, if_neg notLeading, inductionHypothesis]
      rfl
  | @pair high low leading trailing pieces text more inductionHypothesis =>
      have notTrailing : ¬isTrailing high = true := by
        rw [isTrailing_eq_true_iff]
        omega
      rw [Document.characters.eq_def]
      simp only [if_neg notTrailing, if_pos (isLeading_eq_true_iff.mpr leading),
        if_pos (isTrailing_eq_true_iff.mpr trailing), inductionHypothesis]
      rfl

theorem characters_eq_ok_iff (rest : List Char) {pieces : List Lexeme} {text : List Char} :
    characters (.closed rest) pieces = .ok text ↔ Spells pieces text := by
  refine ⟨?_, fun spells => spells.characters rest⟩
  intro read
  fun_induction Document.characters (.closed rest) pieces generalizing text with
  | case1 =>
      cases read
      exact .nil
  | case2 | case4 | case6 | case7 | case8 => cases read
  | case3 c pieces inductionHypothesis =>
      obtain ⟨behind, readMore, made⟩ := bind_eq_ok read
      cases made
      exact .plain c (inductionHypothesis readMore)
  | case5 high _ leading low pieces trailing =>
      rename_i inductionHypothesis
      obtain ⟨behind, readMore, made⟩ := bind_eq_ok read
      cases made
      exact .pair (isLeading_eq_true_iff.mp leading) (isTrailing_eq_true_iff.mp trailing)
        (inductionHypothesis readMore)
  | case9 code pieces notTrailing notLeading inductionHypothesis =>
      obtain ⟨behind, readMore, made⟩ := bind_eq_ok read
      cases made
      refine .unit ?_ (inductionHypothesis readMore)
      rw [isTrailing_eq_true_iff] at notTrailing
      rw [isLeading_eq_true_iff] at notLeading
      omega

theorem characters_closed (rest : List Char) :
    ∀ pieces, characters (.closed rest) pieces = characters (.closed []) pieces
  | [] => rfl
  | .plain c :: pieces => by rw [characters, characters, characters_closed rest pieces]
  | [.unit code] => rfl
  | .unit code :: .plain c :: pieces => by
      have readMore := characters_closed rest (.plain c :: pieces)
      rw [characters.eq_def, characters.eq_def (.closed [])]
      simp only [readMore]
  | .unit code :: .unit second :: pieces => by
      have readMore := characters_closed rest (.unit second :: pieces)
      have readBehind := characters_closed rest pieces
      rw [characters.eq_def, characters.eq_def (.closed [])]
      simp only [readMore, readBehind]

/-- Nothing at the beginning of a text would continue a number. -/
def EndsNumber : List Char → Prop
  | [] => True
  | c :: _ => c.isDigit = false ∧ c ≠ '.' ∧ c ≠ 'e' ∧ c ≠ 'E'

theorem takeWhile_isDigit_append {digits rest : List Char} (all : ∀ c ∈ digits, c.isDigit = true)
    (stops : ∀ c ∈ rest.head?, c.isDigit = false) :
    (digits ++ rest).takeWhile Char.isDigit = digits ∧
      (digits ++ rest).dropWhile Char.isDigit = rest := by
  have front : rest.takeWhile Char.isDigit = [] ∧ rest.dropWhile Char.isDigit = rest := by
    cases rest with
    | nil => exact ⟨rfl, rfl⟩
    | cons c rest => simp [stops c rfl]
  rw [List.takeWhile_append_of_pos all, List.dropWhile_append_of_pos all, front.1, front.2]
  exact ⟨List.append_nil _, rfl⟩

theorem EndsNumber.not_isDigit {rest : List Char} (stops : EndsNumber rest) :
    ∀ c ∈ rest.head?, c.isDigit = false := by
  cases rest with
  | nil => exact fun c none => by cases none
  | cons c rest =>
      intro first here
      obtain rfl := Option.some.inj here
      exact stops.1

namespace Grammar

structure Blanks where
  text : List Char
  blank : ∀ c ∈ text, c ∈ [' ', '\t', '\n', '\r']

def Blanks.none : Blanks := ⟨[], by simp⟩

theorem Blanks.isBlank (blanks : Blanks) : ∀ c ∈ blanks.text, isBlank c = true := by
  have all : ∀ c ∈ [' ', '\t', '\n', '\r'], Document.isBlank c = true := by
    simp [Document.isBlank]
  exact fun c member => all c (blanks.blank c member)

theorem Blanks.skipBlanks_append (blanks : Blanks) (rest : List Char) :
    skipBlanks (blanks.text ++ rest) = skipBlanks rest :=
  List.dropWhile_append_of_pos blanks.isBlank

theorem Blanks.endsNumber_append (blanks : Blanks) {rest : List Char} (stops : EndsNumber rest) :
    EndsNumber (blanks.text ++ rest) := by
  obtain ⟨text, blank⟩ := blanks
  cases text with
  | nil => exact stops
  | cons c text =>
      have all : ∀ c ∈ [' ', '\t', '\n', '\r'],
          c.isDigit = false ∧ c ≠ '.' ∧ c ≠ 'e' ∧ c ≠ 'E' := by simp
      exact all c (blank c (List.mem_cons_self ..))

structure HexDigit where
  char : Char
  value : Nat
  reads : Text.hexDigit? char = some value

inductive Piece where
  | plain (c : Char) (printable : 0x20 ≤ c.toNat) (noQuote : c ≠ '"') (noSlash : c ≠ '\\')
  /-- A character behind a backslash, with the one it stands for. -/
  | escape (mark c : Char) (known : simpleEscape? mark = some c)
  | unit (first second third fourth : HexDigit)

def Piece.text : Piece → List Char
  | .plain c .. => [c]
  | .escape mark .. => ['\\', mark]
  | .unit first second third fourth =>
      ['\\', 'u', first.char, second.char, third.char, fourth.char]

def Piece.lexeme : Piece → Lexeme
  | .plain c .. => .plain c
  | .escape _ c _ => .plain c
  | .unit first second third fourth =>
      .unit (4096 * first.value + 256 * second.value + 16 * third.value + fourth.value)

theorem lexemes_piece (piece : Piece) (rest : List Char) :
    lexemes (piece.text ++ rest) = (piece.lexeme :: (lexemes rest).1, (lexemes rest).2) := by
  cases piece with
  | plain c printable noQuote noSlash =>
      have visible : ¬c.toNat < 0x20 := by omega
      simp [Piece.text, Piece.lexeme, lexemes, noSlash, visible]
  | escape mark c known =>
      have other : mark ≠ 'u' := by
        rintro rfl
        cases known
      simp [Piece.text, Piece.lexeme, lexemes, other, known]
  | unit first second third fourth =>
      simp [Piece.text, Piece.lexeme, lexemes, hex4?, first.reads, second.reads, third.reads,
        fourth.reads]

def lexemesOf (pieces : List Piece) : List Lexeme := pieces.map Piece.lexeme

def held (pieces : List Piece) : Except Fault String := stringOf (lexemesOf pieces) (.closed [])

def quoted (pieces : List Piece) : List Char := '"' :: (pieces.flatMap Piece.text ++ ['"'])

theorem lexemes_pieces (pieces : List Piece) (rest : List Char) :
    lexemes (pieces.flatMap Piece.text ++ ['"'] ++ rest) = (lexemesOf pieces, .closed rest) := by
  induction pieces with
  | nil => rfl
  | cons piece pieces inductionHypothesis =>
      rw [List.flatMap_cons, List.append_assoc, List.append_assoc, lexemes_piece,
        ← List.append_assoc, inductionHypothesis]
      rfl

theorem stringOf_closed (pieces : List Lexeme) (rest : List Char) :
    stringOf pieces (.closed rest) = stringOf pieces (.closed []) := by
  rw [stringOf, stringOf, characters_closed]

theorem held_eq_ok_iff {pieces : List Piece} {text : String} :
    held pieces = .ok text ↔ Spells (lexemesOf pieces) text.toList := by
  rw [← characters_eq_ok_iff [], held, stringOf]
  cases characters (.closed []) (lexemesOf pieces) with
  | error fault => simp [Except.map]
  | ok read =>
      simp only [Except.map, Except.ok.injEq]
      constructor
      · rintro rfl
        exact String.toList_ofList.symm
      · rintro rfl
        exact String.ofList_toList

structure Digits where
  text : List Char
  nonempty : text ≠ []
  digits : ∀ c ∈ text, c.isDigit = true

inductive Sign where
  | none
  | plus
  | minus

def Sign.text : Sign → List Char
  | .none => []
  | .plus => ['+']
  | .minus => ['-']

def Sign.negative : Sign → Bool
  | .minus => true
  | _ => false

structure Exponent where
  mark : Char
  marks : mark ∈ ['e', 'E']
  sign : Sign
  digits : Digits

def Exponent.text (exponent : Exponent) : List Char :=
  exponent.mark :: (exponent.sign.text ++ exponent.digits.text)

/-- A number: a whole part without leading zeros, then decimals and an exponent if there are any. -/
structure Numeral where
  negative : Bool
  whole : Digits
  canonical : whole.text.head? = some '0' → whole.text = ['0']
  decimals : Option Digits
  exponent : Option Exponent

namespace Numeral

def decimalsText : Option Digits → List Char
  | none => []
  | some decimals => '.' :: decimals.text

def exponentText : Option Exponent → List Char
  | none => []
  | some exponent => exponent.text

def text (numeral : Numeral) : List Char :=
  (if numeral.negative then ['-'] else []) ++
    (numeral.whole.text ++ (decimalsText numeral.decimals ++ exponentText numeral.exponent))

def exponentOf : Option Exponent → Int
  | none => 0
  | some exponent => Document.exponentOf exponent.sign.negative exponent.digits.text

def literal (numeral : Numeral) : Literal where
  numeral :=
    { negative := numeral.negative
      whole := numeral.whole.text
      decimals := (numeral.decimals.map Digits.text).getD []
      exponent := exponentOf numeral.exponent }
  integral := numeral.decimals.isNone && numeral.exponent.isNone

end Numeral

theorem Digits.exists_cons (digits : Digits) : ∃ c rest, digits.text = c :: rest ∧ c.isDigit = true := by
  obtain ⟨text, nonempty, all⟩ := digits
  cases text with
  | nil => exact absurd rfl nonempty
  | cons c text => exact ⟨c, text, rfl, all c (List.mem_cons_self ..)⟩

theorem takeSign_sign (sign : Sign) (digits : Digits) (rest : List Char) :
    Binary64.takeSign (sign.text ++ (digits.text ++ rest)) = (sign.negative, digits.text ++ rest) := by
  obtain ⟨c, more, written, isDigit⟩ := digits.exists_cons
  cases sign with
  | plus => rfl
  | minus => rfl
  | none =>
      have notMinus : c ≠ '-' := by
        rintro rfl
        revert isDigit
        decide
      have notPlus : c ≠ '+' := by
        rintro rfl
        revert isDigit
        decide
      simp [Sign.text, Sign.negative, written, Binary64.takeSign, notMinus, notPlus]

theorem readExponent_text (negative integral : Bool) (whole decimals : List Char)
    (exponent : Option Exponent) {rest : List Char} (stops : EndsNumber rest) :
    readExponent ⟨negative, whole, decimals, 0⟩ integral (Numeral.exponentText exponent ++ rest) =
      .whole ⟨⟨negative, whole, decimals, Numeral.exponentOf exponent⟩,
        integral && exponent.isNone⟩ rest := by
  cases exponent with
  | none =>
      rw [Option.isNone_none, Bool.and_true]
      cases rest with
      | nil => rfl
      | cons c rest => simp [readExponent, Numeral.exponentText, Numeral.exponentOf, stops.2.2]
  | some exponent =>
      obtain ⟨mark, marks, sign, digits⟩ := exponent
      obtain ⟨taken, dropped⟩ := takeWhile_isDigit_append digits.digits stops.not_isDigit
      have signed := takeSign_sign sign digits rest
      simp only [List.mem_cons, List.not_mem_nil, or_false] at marks
      rcases marks with rfl | rfl <;>
      · simp only [Numeral.exponentText, Exponent.text, List.cons_append, List.append_assoc,
          readExponent, signed, taken, dropped, Option.isNone_some, Bool.and_false]
        split
        · next none => exact absurd none digits.nonempty
        · rfl

/-- Neither an exponent nor what ends a number begins with a digit or a point. -/
theorem exponentText_append_head (exponent : Option Exponent) {rest : List Char}
    (stops : EndsNumber rest) :
    ∀ c ∈ (Numeral.exponentText exponent ++ rest).head?, c.isDigit = false ∧ c ≠ '.' := by
  intro c here
  cases exponent with
  | none =>
      cases rest with
      | nil => cases here
      | cons first rest =>
          obtain rfl := Option.some.inj here
          exact ⟨stops.1, stops.2.1⟩
  | some exponent =>
      have all : ∀ c ∈ ['e', 'E'], c.isDigit = false ∧ c ≠ '.' := by simp
      obtain rfl := Option.some.inj here
      exact all _ exponent.marks

theorem readDecimals_text (negative : Bool) (whole : List Char) (decimals : Option Digits)
    (exponent : Option Exponent) {rest : List Char} (stops : EndsNumber rest) :
    readDecimals ⟨negative, whole, [], 0⟩
        (Numeral.decimalsText decimals ++ (Numeral.exponentText exponent ++ rest)) =
      .whole ⟨⟨negative, whole, (decimals.map Digits.text).getD [], Numeral.exponentOf exponent⟩,
        decimals.isNone && exponent.isNone⟩ rest := by
  have behind := exponentText_append_head exponent stops
  have readBehind (integral : Bool) (decimals : List Char) :=
    readExponent_text negative integral whole decimals exponent stops
  cases decimals with
  | none =>
      simp only [Numeral.decimalsText, List.nil_append]
      unfold readDecimals
      split
      · next more begins =>
          rw [begins] at behind
          exact absurd rfl (behind '.' rfl).2
      · exact readBehind true []
  | some decimals =>
      obtain ⟨taken, dropped⟩ :=
        takeWhile_isDigit_append decimals.digits fun c here => (behind c here).1
      simp only [Numeral.decimalsText, List.cons_append, readDecimals, taken, dropped]
      split
      · next none => exact absurd none decimals.nonempty
      · exact readBehind false decimals.text

theorem readWhole_text (negative : Bool) (whole : Digits)
    (canonical : whole.text.head? = some '0' → whole.text = ['0']) (decimals : Option Digits)
    (exponent : Option Exponent) {rest : List Char} (stops : EndsNumber rest) :
    readWhole negative (whole.text ++
        (Numeral.decimalsText decimals ++ (Numeral.exponentText exponent ++ rest))) =
      .whole ⟨⟨negative, whole.text, (decimals.map Digits.text).getD [],
        Numeral.exponentOf exponent⟩, decimals.isNone && exponent.isNone⟩ rest := by
  have behind : ∀ c ∈ (Numeral.decimalsText decimals ++
      (Numeral.exponentText exponent ++ rest)).head?, c.isDigit = false := by
    cases decimals with
    | none => exact fun c here => (exponentText_append_head exponent stops c here).1
    | some decimals =>
        intro c here
        obtain rfl := Option.some.inj here
        rfl
  obtain ⟨taken, dropped⟩ := takeWhile_isDigit_append whole.digits behind
  rw [readWhole, taken, dropped]
  split
  · next none => exact absurd none whole.nonempty
  · next second more begins =>
      have alone := canonical (by rw [begins]; rfl)
      rw [begins] at alone
      cases alone
  · exact readDecimals_text negative whole.text decimals exponent stops

theorem readNumber_text (numeral : Numeral) {rest : List Char} (stops : EndsNumber rest) :
    readNumber (numeral.text ++ rest) = .whole numeral.literal rest := by
  obtain ⟨negative, whole, canonical, decimals, exponent⟩ := numeral
  have read := readWhole_text negative whole canonical decimals exponent stops
  cases negative with
  | true =>
      simp only [Numeral.text, if_true, List.cons_append, List.nil_append, List.append_assoc]
      exact read
  | false =>
      simp only [Numeral.text, Bool.false_eq_true, if_false, List.nil_append, List.append_assoc]
      rw [readNumber.eq_def]
      split
      · next more begins =>
          obtain ⟨c, digits, written, isDigit⟩ := whole.exists_cons
          rw [written] at begins
          obtain rfl : c = '-' := (List.cons.inj begins).1
          exact absurd isDigit (by decide)
      · exact read

theorem Numeral.exists_cons (numeral : Numeral) :
    ∃ c rest, numeral.text = c :: rest ∧ (c = '-' ∨ c.isDigit = true) := by
  obtain ⟨negative, whole, canonical, decimals, exponent⟩ := numeral
  obtain ⟨c, digits, written, isDigit⟩ := whole.exists_cons
  cases negative with
  | true => exact ⟨'-', _, rfl, .inl rfl⟩
  | false =>
      refine ⟨c, digits ++ (Numeral.decimalsText decimals ++ Numeral.exponentText exponent), ?_,
        .inr isDigit⟩
      simp [Numeral.text, written]

end Grammar

end ReportCharts.Json
