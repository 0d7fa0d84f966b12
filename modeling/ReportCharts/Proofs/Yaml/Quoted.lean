import ReportCharts.Proofs.Overrides.Settings
import ReportCharts.Yaml.Scalar

/-!
Double-quoted scalars of printable characters, read back from what JSON writes for them.

YAML reads a quoted scalar as words with gaps of blanks between them. On one line the gaps are kept
as they are, and the two escapes that printable characters need mean the same as in JSON.
-/

namespace ReportCharts.Yaml

open Json.Value (escaped)
open Overrides (isPrintable)

theorem isBreak_of_isPrintable {c : Char} (printable : isPrintable c = true) :
    isBreak c = false := by
  have other := Text.ne_of_test printable
  simp [isBreak, other '\n' rfl, other '\r' rfl, other '\u0085' rfl, other '\u2028' rfl,
    other '\u2029' rfl]

theorem isBlank_of_isPrintable {c : Char} (printable : isPrintable c = true) (solid : c ≠ ' ') :
    isBlank c = false := by
  simp [isBlank, solid, Text.ne_of_test printable '\t' rfl]

theorem isSpace_of_isPrintable {c : Char} (printable : isPrintable c = true) (solid : c ≠ ' ') :
    isSpace c = false := by
  simp [isSpace, isBlank_of_isPrintable printable solid, isBreak_of_isPrintable printable]

theorem quotedWord_escaped {word : List Char}
    (printable : ∀ c ∈ word, isPrintable c = true ∧ c ≠ ' ') {stop : Char}
    (stops : stop = ' ' ∨ stop = '"') {rest : List Char} {cursor : Cursor}
    (ahead : cursor.rest = word.flatMap escaped ++ stop :: rest) {fuel : Nat}
    (enough : word.length < fuel) :
    quotedWord true fuel cursor =
      some (word, .plain, cursor.advance (word.flatMap escaped).length) := by
  induction word generalizing cursor fuel with
  | nil =>
      obtain ⟨fuel, rfl⟩ := Nat.exists_eq_add_of_lt enough
      rcases stops with rfl | rfl
      · simp [quotedWord, ahead, isSpace, isBlank]
      · simp [quotedWord, ahead, isSpace, isBlank, isBreak]
  | cons c word inductionHypothesis =>
      obtain ⟨fuel, rfl⟩ := Nat.exists_eq_add_of_le' (Nat.succ_le_of_lt (Nat.zero_lt_of_lt enough))
      have shorter : word.length < fuel := by simpa using enough
      obtain ⟨printableFirst, solid⟩ := printable c (by simp)
      have printableRest : ∀ c ∈ word, isPrintable c = true ∧ c ≠ ' ' :=
        fun c mem => printable c (by simp [mem])
      rcases escaped_of_isPrintable printableFirst with
        ⟨special, written⟩ | ⟨quote, slash, written⟩
      · have behind : (cursor.advance 2).rest = word.flatMap escaped ++ stop :: rest := by
          simp [ahead, written]
        have readMore := inductionHypothesis printableRest behind shorter
        rw [Cursor.advance_advance] at readMore
        have length : (List.flatMap escaped (c :: word)).length =
            2 + (word.flatMap escaped).length := by
          simp [written]
          omega
        rw [length]
        rcases special with rfl | rfl
        · simp [quotedWord, ahead, written, isSpace, isBlank, isBreak, escape?, readMore]
        · simp [quotedWord, ahead, written, isSpace, isBlank, isBreak, escape?, readMore]
      · have behind : (cursor.advance 1).rest = word.flatMap escaped ++ stop :: rest := by
          simp [ahead, written]
        have readMore := inductionHypothesis printableRest behind shorter
        rw [Cursor.advance_advance] at readMore
        have length : (List.flatMap escaped (c :: word)).length =
            1 + (word.flatMap escaped).length := by
          simp [written]
          omega
        rw [length]
        simp [quotedWord, ahead, written, isSpace_of_isPrintable printableFirst solid, quote, slash,
          readMore]

theorem readGap_spaces {stop : Char} (solid : isSpace stop = false) (indent : Nat)
    {spaces : List Char} (all : ∀ c ∈ spaces, c = ' ') {rest : List Char} {cursor : Cursor}
    (ahead : cursor.rest = spaces ++ stop :: rest) (sofar : List Char) {fuel : Nat}
    (enough : spaces.length < fuel) :
    readGap indent fuel ⟨sofar, []⟩ cursor =
      some (⟨sofar ++ spaces, []⟩, cursor.advance spaces.length) := by
  induction spaces generalizing sofar cursor fuel with
  | nil =>
      obtain ⟨fuel, rfl⟩ := Nat.exists_eq_add_of_lt enough
      obtain ⟨notBlank, notBreak⟩ := Bool.or_eq_false_iff.mp solid
      simp [readGap, Cursor.head?, ahead, notBlank, notBreak]
  | cons c spaces inductionHypothesis =>
      obtain ⟨fuel, rfl⟩ := Nat.exists_eq_add_of_le' (Nat.succ_le_of_lt (Nat.zero_lt_of_lt enough))
      obtain rfl := all c (by simp)
      have behind : (cursor.advance 1).rest = spaces ++ stop :: rest := by simp [ahead]
      have readMore := inductionHypothesis (fun c mem => all c (by simp [mem])) behind
        (sofar ++ [' ']) (show spaces.length < fuel by simpa using enough)
      rw [Cursor.advance_advance] at readMore
      have blank : isBlank ' ' = true := rfl
      simp [readGap, Cursor.head?, ahead, blank, Gap.crossesLine, readMore, Nat.add_comm 1]

/-- The first character of a written text and its quote that is no space. -/
theorem exists_stop {content : List Char} (printable : ∀ c ∈ content, isPrintable c = true)
    (solid : content.head? ≠ some ' ') (rest : List Char) :
    ∃ stop behind, content.flatMap escaped ++ '"' :: rest = stop :: behind ∧
      isSpace stop = false := by
  cases content with
  | nil => exact ⟨'"', rest, rfl, rfl⟩
  | cons c content =>
      have printableFirst := printable c (by simp)
      have solidFirst : c ≠ ' ' := by simpa using solid
      rcases escaped_of_isPrintable printableFirst with ⟨-, written⟩ | ⟨-, -, written⟩
      · exact ⟨'\\', c :: (content.flatMap escaped ++ '"' :: rest), by simp [written], rfl⟩
      · exact ⟨c, content.flatMap escaped ++ '"' :: rest, by simp [written],
          isSpace_of_isPrintable printableFirst solidFirst⟩

/-- A text is a word, the spaces behind it, and more of the kind where there are spaces. -/
theorem exists_words (content : List Char) : ∃ word spaces more, content = word ++ (spaces ++ more) ∧
    (∀ c ∈ word, c ≠ ' ') ∧ (∀ c ∈ spaces, c = ' ') ∧ (spaces = [] → more = []) ∧
    more.head? ≠ some ' ' := by
  induction content with
  | nil => exact ⟨[], [], [], by simp⟩
  | cons c content inductionHypothesis =>
      obtain ⟨word, spaces, more, rfl, solid, all, stops, head⟩ := inductionHypothesis
      by_cases space : c = ' '
      · subst space
        cases word with
        | nil => exact ⟨[], ' ' :: spaces, more, by simp, by simp, by simpa using all, by simp, head⟩
        | cons first word =>
            refine ⟨[], [' '], first :: word ++ (spaces ++ more), by simp, by simp, by simp, by simp,
              ?_⟩
            simpa using solid first (by simp)
      · exact ⟨c :: word, spaces, more, by simp, by simpa using ⟨space, solid⟩, all, stops, head⟩

theorem flatMap_escaped_spaces {spaces : List Char} (all : ∀ c ∈ spaces, c = ' ') :
    spaces.flatMap escaped = spaces := by
  induction spaces with
  | nil => rfl
  | cons c spaces inductionHypothesis =>
      obtain rfl := all c (by simp)
      rw [List.flatMap_cons, inductionHypothesis fun c mem => all c (by simp [mem])]
      rfl

section Steps

variable {word : List Char} {rest : List Char} {cursor : Cursor}

theorem begins_word {stop : Char} (inside : 0 < cursor.column)
    (ahead : cursor.rest = word.flatMap escaped ++ stop :: rest) :
    (cursor.atDocumentMarker || cursor.atEnd) = false ∧ word.length < cursor.rest.length + 1 := by
  have column : cursor.column ≠ 0 := Nat.ne_of_gt inside
  have longer := length_le_length_flatMap escaped_ne_nil word
  constructor
  · simp [Cursor.atDocumentMarker, Cursor.atMarker, column, Cursor.atEnd, ahead]
  · rw [ahead, List.length_append]
    omega

theorem readQuoted_last (printable : ∀ c ∈ word, isPrintable c = true ∧ c ≠ ' ')
    (inside : 0 < cursor.column) (ahead : cursor.rest = word.flatMap escaped ++ '"' :: rest)
    (fuel : Nat) :
    readQuoted true (fuel + 1) cursor =
      some ⟨word, false, cursor.advance ((word.flatMap escaped).length + 1)⟩ := by
  obtain ⟨begins, room⟩ := begins_word inside ahead
  have readWord := quotedWord_escaped printable (.inr rfl) ahead room
  have closes : (cursor.advance (word.flatMap escaped).length).startsWith '"' = true := by
    simp [Cursor.startsWith, Cursor.head?, ahead]
  simp only [readQuoted, begins, Bool.false_eq_true, if_false, readWord, closes, if_true,
    Cursor.advance_advance]

theorem readQuoted_spaces (printable : ∀ c ∈ word, isPrintable c = true ∧ c ≠ ' ')
    {spaces : List Char} (all : ∀ c ∈ spaces, c = ' ') (nonempty : spaces ≠ []) {stop : Char}
    (solid : isSpace stop = false) (inside : 0 < cursor.column)
    (ahead : cursor.rest = word.flatMap escaped ++ (spaces ++ stop :: rest)) (fuel : Nat) :
    readQuoted true (fuel + 1) cursor =
      (readQuoted true fuel (cursor.advance ((word.flatMap escaped).length + spaces.length))).map
        (·.behind (word ++ spaces)) := by
  obtain ⟨space, more, rfl⟩ := List.exists_cons_of_ne_nil nonempty
  obtain rfl : space = ' ' := all space (by simp)
  rw [List.cons_append] at ahead
  obtain ⟨begins, room⟩ := begins_word inside ahead
  have readWord := quotedWord_escaped printable (.inl rfl) ahead room
  have behind : (cursor.advance (word.flatMap escaped).length).rest =
      (' ' :: more) ++ stop :: rest := by
    rw [Cursor.rest_advance, ahead, List.drop_left, List.cons_append]
  have noClose : (cursor.advance (word.flatMap escaped).length).startsWith '"' = false := by
    rw [Cursor.startsWith, Cursor.head?, behind]
    rfl
  have roomForGap : (' ' :: more).length <
      (cursor.advance (word.flatMap escaped).length).rest.length + 1 := by
    rw [behind, List.length_append]
    omega
  have gap := readGap_spaces solid 0 all behind [] roomForGap
  rw [Cursor.advance_advance] at gap
  simp only [readQuoted, begins, Bool.false_eq_true, if_false, readWord, if_true, noClose, gapAfter,
    WordEnd.gap, Gap.none, gap, Gap.text, List.nil_append]

end Steps

/--
A written text is read up to its closing quote.

The induction is on the fuel: a word and the gap behind it are read in one step, and what is left of
the text is shorter.
-/
theorem readQuoted_escaped {content : List Char} (printable : ∀ c ∈ content, isPrintable c = true)
    {rest : List Char} {cursor : Cursor} (inside : 0 < cursor.column)
    (ahead : cursor.rest = content.flatMap escaped ++ '"' :: rest) {fuel : Nat}
    (enough : content.length < fuel) :
    readQuoted true fuel cursor =
      some ⟨content, false, cursor.advance ((content.flatMap escaped).length + 1)⟩ := by
  induction fuel generalizing content cursor with
  | zero => omega
  | succ fuel inductionHypothesis =>
      obtain ⟨word, spaces, more, rfl, solid, all, stops, head⟩ := exists_words content
      have printableWord : ∀ c ∈ word, isPrintable c = true ∧ c ≠ ' ' :=
        fun c mem => ⟨printable c (by simp [mem]), solid c mem⟩
      by_cases last : spaces = []
      · obtain rfl := stops last
        subst last
        simp only [List.append_nil] at ahead ⊢
        exact readQuoted_last printableWord inside ahead fuel
      · have printableMore : ∀ c ∈ more, isPrintable c = true :=
          fun c mem => printable c (by simp [mem])
        obtain ⟨stop, behind, aheadMore, solidStop⟩ := exists_stop printableMore head rest
        have written : (word ++ (spaces ++ more)).flatMap escaped =
            word.flatMap escaped ++ (spaces ++ more.flatMap escaped) := by
          rw [List.flatMap_append, List.flatMap_append, flatMap_escaped_spaces all]
        rw [written, List.append_assoc, List.append_assoc] at ahead
        have aheadStop := ahead
        rw [aheadMore] at aheadStop
        have step := readQuoted_spaces printableWord all last solidStop inside aheadStop fuel
        have aheadRest : (cursor.advance ((word.flatMap escaped).length + spaces.length)).rest =
            more.flatMap escaped ++ '"' :: rest := by
          rw [← Cursor.advance_advance, Cursor.rest_advance, Cursor.rest_advance, ahead,
            List.drop_left, List.drop_left]
        have some := List.length_pos_iff.mpr last
        have readMore := inductionHypothesis printableMore (Nat.lt_add_right _ inside) aheadRest
          (by simp only [List.length_append] at enough; omega)
        rw [Cursor.advance_advance] at readMore
        rw [step, readMore, written]
        simp [Reading.behind, Nat.add_assoc]

end ReportCharts.Yaml
