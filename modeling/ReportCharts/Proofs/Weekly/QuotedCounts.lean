import ReportCharts.Proofs.Binary64.Steps
import ReportCharts.Proofs.Json.Accepted
import ReportCharts.Proofs.Json.Numerals
import ReportCharts.Proofs.Schema.Report
import ReportCharts.Proofs.Weekly.Tables

/-!
Counts of a table text that are put between quotes.

A number and the string that spells it count as the same double, so a permissive reading draws a table the
same with its counts quoted or not, as long as the JSON reader rounds the numbers as if in one step. A
strict reading refuses the first count that is no number.
-/

namespace ReportCharts

open Json Document Grammar

namespace Cell

theorem accepting : Cell.shape.Accepting := by
  intro room document cell read
  have known := read_eq_ok_iff.mp read
  unfold ofDocument? at known
  split at known
  · rfl
  · rfl
  · rfl
  · cases known

theorem accepting_table : Cell.tableShape.Accepting := accepting.list.list

end Cell

namespace Json.Grammar

/-- The reader makes the same of a number as if it rounded once. -/
def RoundsOnce (rounding : Binary64.Rounding) (numeral : Numeral) : Prop :=
  numeral.literal.value rounding = numeral.literal.value .once

theorem roundsOnce_of_int {rounding : Binary64.Rounding} {numeral : Numeral} {value : Int}
    (read : numeral.literal.value rounding = .ok (.int value)) : RoundsOnce rounding numeral := by
  rw [RoundsOnce, read]
  simp only [Literal.value] at read ⊢
  split at read
  · next natural => rw [if_pos natural, ← read]
  split at read
  · next notNatural negative => rw [if_neg notNatural, if_pos negative, ← read]
  split at read <;> cases read

theorem roundsOnce_of_short (rounding : Binary64.Rounding) {numeral : Numeral}
    (few : Binary64.digitsValue (numeral.literal.numeral.whole ++ numeral.literal.numeral.decimals) <
      2 * Binary64.significands)
    (low : -22 ≤ numeral.literal.numeral.exponent - numeral.literal.numeral.decimals.length)
    (high : numeral.literal.numeral.exponent - numeral.literal.numeral.decimals.length ≤ 22) :
    RoundsOnce rounding numeral := by
  cases rounding with
  | once => rfl
  | stepwise =>
      have same : numeral.literal.numeral.rounded .stepwise = numeral.literal.numeral.rounded .once :=
        Binary64.Numeral.stepwise_eq_value few low high
      rw [RoundsOnce, Literal.value, Literal.value, same]

-- with an exponent as large as this one a reader may come out at a neighbour of the nearest double
example : Cell.tableShape.ofTextBy .stepwise "[[],[null,5.7886647e98]]" ≠
    Cell.tableShape.ofTextBy .once "[[],[null,5.7886647e98]]" := by decide +kernel

/-- A string that holds a number, with white space on both sides of it. -/
def Quotes (pieces : List Piece) (numeral : Numeral) : Prop :=
  ∃ left right, Spells (lexemesOf pieces) (left ++ numeral.text ++ right) ∧
    (∀ c ∈ left, Text.isBlank c = true) ∧ ∀ c ∈ right, Text.isBlank c = true

theorem exists_quotes (numeral : Numeral) {left right : List Char}
    (blankLeft : ∀ c ∈ left, Text.isBlank c = true) (blankRight : ∀ c ∈ right, Text.isBlank c = true) :
    ∃ pieces, Quotes pieces numeral ∧ held pieces = .ok (String.ofList (left ++ numeral.text ++ right)) := by
  obtain ⟨pieces, -, holds⟩ := exists_quoted (String.ofList (left ++ numeral.text ++ right))
  have spells := held_eq_ok_iff.mp holds
  rw [String.toList_ofList] at spells
  exact ⟨pieces, ⟨left, right, spells, blankLeft, blankRight⟩, holds⟩

/-- A count as it was, or a number put between quotes. -/
inductive CountQuoted (rounding : Binary64.Rounding) : Padded Spelling → Padded Spelling → Prop
  | kept (count : Padded Spelling) : CountQuoted rounding count count
  | quoted {numeral : Numeral} {pieces : List Piece} (before after : Blanks)
      (quotes : Quotes pieces numeral) (rounds : RoundsOnce rounding numeral) :
      CountQuoted rounding ⟨before, .number numeral, after⟩ ⟨before, .string pieces, after⟩

/-- Table texts that are alike but for quotes around counts. -/
inductive CountsQuoted (rounding : Binary64.Rounding) : Padded Spelling → Padded Spelling → Prop
  | row {counts quoted : List (Padded Spelling)} (before inside beforeRow insideRow afterRow after : Blanks)
      (header category : Padded Spelling) (others : List (Padded Spelling))
      (each : List.Forall₂ (CountQuoted rounding) counts quoted) :
      CountsQuoted rounding
        ⟨before, .array inside
          (header :: ⟨beforeRow, .array insideRow (category :: counts), afterRow⟩ :: others), after⟩
        ⟨before, .array inside
          (header :: ⟨beforeRow, .array insideRow (category :: quoted), afterRow⟩ :: others), after⟩

end Json.Grammar

namespace Cell

variable {rounding : Binary64.Rounding} {room : Nat}

theorem ofTextBy_countTable_iff {before inside beforeRow insideRow afterRow after : Blanks}
    {header category : Padded Spelling} {counts others : List (Padded Spelling)}
    {table : List (List Cell)} :
    Cell.tableShape.ofTextBy rounding (Padded.toString ⟨before, .array inside
        (header :: ⟨beforeRow, .array insideRow (category :: counts), afterRow⟩ :: others), after⟩) =
          .ok table ↔
      ∃ headerCells categoryCell cells rows,
        (Shape.list Cell.shape).read 127 (header.content.document rounding) = .ok headerCells ∧
          Cell.shape.read 126 (category.content.document rounding) = .ok categoryCell ∧
          List.Forall₂ (fun item cell => Cell.shape.read 126 item = .ok cell)
            (Spelling.itemDocuments rounding counts) cells ∧
          List.Forall₂ (fun item row => (Shape.list Cell.shape).read 127 item = .ok row)
            (Spelling.itemDocuments rounding others) rows ∧
          table = headerCells :: (categoryCell :: cells) :: rows := by
  rw [Shape.ofTextBy_toString, tableShape]
  simp only [Shape.read_spelledList_eq_ok_iff, Spelling.itemDocuments, List.forall₂_cons_left_iff]
  constructor
  · rintro ⟨headerCells, _, readHeader, ⟨_, rows, ⟨categoryCell, cells, readCategory, readCounts, rfl⟩,
      readOthers, rfl⟩, rfl⟩
    exact ⟨headerCells, categoryCell, cells, rows, readHeader, readCategory, readCounts, readOthers, rfl⟩
  · rintro ⟨headerCells, categoryCell, cells, rows, readHeader, readCategory, readCounts, readOthers, rfl⟩
    exact ⟨headerCells, _, readHeader, ⟨_, rows, ⟨categoryCell, cells, readCategory, readCounts, rfl⟩,
      readOthers, rfl⟩, rfl⟩

theorem exists_read_of_countQuoted {count quoted : Padded Spelling} {cell : Cell}
    (changed : CountQuoted rounding count quoted)
    (read : Cell.shape.read room (count.content.document rounding) = .ok cell) :
    ∃ quotedCell, Cell.shape.read room (quoted.content.document rounding) = .ok quotedCell ∧
      quotedCell.count = cell.count ∧ (quoted = count ∨ ∀ value, quotedCell ≠ .number value) := by
  cases changed with
  | kept => exact ⟨cell, read, rfl, .inl rfl⟩
  | @quoted numeral pieces before after quotes rounds =>
      obtain ⟨left, right, spells, blankLeft, blankRight⟩ := quotes
      have holds : held pieces = .ok (String.ofList (left ++ numeral.text ++ right)) := by
        rw [held_eq_ok_iff, String.toList_ofList]
        exact spells
      have known := read_eq_ok_iff.mp read
      rw [Spelling.document, rounds] at known
      cases value : numeral.literal.value .once with
      | error fault =>
          rw [value] at known
          cases known
      | ok number =>
          rw [value] at known
          obtain rfl := Option.some.inj known
          refine ⟨.text (String.ofList (left ++ numeral.text ++ right)), ?_, ?_, .inr nofun⟩
          · rw [read_eq_ok_iff, Spelling.document, holds]
            rfl
          · rw [numeral.count_text blankLeft blankRight String.toList_ofList,
              ← Numeral.toBinary64_of_value value, count_number]

theorem exists_reads_of_countsQuoted {counts quoted : List (Padded Spelling)} {cells : List Cell}
    (each : List.Forall₂ (CountQuoted rounding) counts quoted)
    (read : List.Forall₂ (fun item cell => Cell.shape.read room item = .ok cell)
      (Spelling.itemDocuments rounding counts) cells) :
    ∃ quotedCells, List.Forall₂ (fun item cell => Cell.shape.read room item = .ok cell)
        (Spelling.itemDocuments rounding quoted) quotedCells ∧
      List.Forall₂ (fun quotedCell cell => quotedCell.count = cell.count) quotedCells cells ∧
      (quoted = counts ∨ ¬∀ cell ∈ quotedCells, ∃ value, cell = .number value) := by
  induction each generalizing cells with
  | nil => exact ⟨[], .nil, by cases read; exact .nil, .inl rfl⟩
  | @cons count quoted counts quotedCounts changed _ inductionHypothesis =>
      rw [Spelling.itemDocuments, List.forall₂_cons_left_iff] at read
      obtain ⟨cell, more, readFirst, readMore, rfl⟩ := read
      obtain ⟨quotedCell, readQuoted, same, first⟩ := exists_read_of_countQuoted changed readFirst
      obtain ⟨quotedMore, readQuotedMore, sameMore, rest⟩ := inductionHypothesis readMore
      refine ⟨quotedCell :: quotedMore, .cons readQuoted readQuotedMore, .cons same sameMore, ?_⟩
      rcases first with rfl | uncounted
      · rcases rest with rfl | uncounted
        · exact .inl rfl
        · exact .inr fun numbers => uncounted fun cell member =>
            numbers cell (List.mem_cons_of_mem _ member)
      · right
        intro numbers
        obtain ⟨value, number⟩ := numbers quotedCell (List.mem_cons_self ..)
        exact uncounted value number

end Cell

namespace Report

theorem weekSeriesFrom_permissive_congr {weeks cells others : List Cell} {index : Nat}
    (same : List.Forall₂ (fun cell other => cell.count = other.count) cells others) :
    weekSeriesFrom .permissive weeks index cells = weekSeriesFrom .permissive weeks index others := by
  induction same generalizing index with
  | nil => rfl
  | cons sameFirst _ inductionHypothesis =>
      rw [weekSeriesFrom_cons, weekSeriesFrom_cons, inductionHypothesis]
      simp only [weekSeries, Cell.countIn_permissive, sameFirst]

/-- What becomes of a table with quoted counts, beside the table without the quotes. -/
structure DrawnQuoted (table quotedTable : List (List Cell)) (changed : Prop) : Prop where
  permissive : ofWeeklyTable quotedTable .permissive = ofWeeklyTable table .permissive
  strict : changed → ∃ header category counts others index cell,
    quotedTable = header :: (category :: counts) :: others ∧ Cell.FirstUncounted counts index cell ∧
      ofWeeklyTable quotedTable .strict =
        .error (.dataParse ("count in column " ++ toString (index + 1) ++ " is not numeric: " ++
          cell.shown))

theorem exists_drawnQuoted {rounding : Binary64.Rounding} {spelled quoted : Padded Spelling}
    {table : List (List Cell)} (changed : CountsQuoted rounding spelled quoted)
    (read : Cell.tableShape.ofTextBy rounding spelled.toString = .ok table) :
    ∃ quotedTable, Cell.tableShape.ofTextBy rounding quoted.toString = .ok quotedTable ∧
      DrawnQuoted table quotedTable (quoted ≠ spelled) := by
  cases changed with
  | row before inside beforeRow insideRow afterRow after header category others each =>
      obtain ⟨header, category, cells, rows, readHeader, readCategory, readCounts, readOthers, rfl⟩ :=
        Cell.ofTextBy_countTable_iff.mp read
      obtain ⟨quotedCells, readQuoted, same, kept⟩ := Cell.exists_reads_of_countsQuoted each readCounts
      refine ⟨header :: (category :: quotedCells) :: rows, ?_, ?_, ?_⟩
      · exact Cell.ofTextBy_countTable_iff.mpr
          ⟨header, category, quotedCells, rows, readHeader, readCategory, readQuoted, readOthers, rfl⟩
      · rw [ofWeeklyTable_counts, ofWeeklyTable_counts, weekSeriesFrom_permissive_congr same]
      · intro changed
        have uncounted : ¬∀ cell ∈ quotedCells, ∃ value, cell = .number value := by
          rcases kept with rfl | uncounted
          · exact absurd rfl changed
          · exact uncounted
        obtain ⟨index, cell, first⟩ := Cell.exists_firstUncounted uncounted
        refine ⟨header, category, quotedCells, rows, index, cell, rfl, first, ?_⟩
        rw [ofWeeklyTable_eq_error_iff, weekSeriesFrom_of_firstUncounted first, Nat.zero_add]

/--
A text that is read as a table can be taken apart. With any of its counts that the reader rounds once put
between quotes, white space around them or not, it is read as a table again, which is drawn the same where
the strictness is permissive; a strict reading refuses it and names the first count that is no number.
-/
theorem drawnQuoted_of_countsQuoted {rounding : Binary64.Rounding} {text : String}
    {table : List (List Cell)} (read : Cell.tableShape.ofTextBy rounding text = .ok table) :
    (∃ spelled : Padded Spelling, spelled.toString = text) ∧
      ∀ spelled quoted : Padded Spelling, spelled.toString = text →
        CountsQuoted rounding spelled quoted →
          ∃ quotedTable, Cell.tableShape.ofTextBy rounding quoted.toString = .ok quotedTable ∧
            DrawnQuoted table quotedTable (quoted ≠ spelled) := by
  refine ⟨Cell.accepting_table.exists_spelled read, ?_⟩
  rintro spelled quoted rfl changed
  exact exists_drawnQuoted changed read

def tinyNumeral : Numeral where
  negative := false
  whole := ⟨['1'], by decide, List.all_eq_true.mp (by decide)⟩
  canonical := by decide
  decimals := none
  exponent := some ⟨'E', by decide, .minus,
    ⟨['4', '0', '0'], by decide, List.all_eq_true.mp (by decide)⟩⟩

def rowOfCounts (counts : List Spelling) : Padded Spelling :=
  let bare (spelling : Spelling) : Padded Spelling := ⟨.none, spelling, .none⟩
  bare (.array .none [bare (.array .none []), bare (.array .none (bare .null :: counts.map bare))])

theorem drawnQuoted_negativeZero_and_tiny :
    let beyond : Spelling := .number (numeralOf false 18446744073709551617)
    let table : List (List Cell) := [[], [.empty, .number .negativeZero, .number (.ofInt 7),
      .number (.ofInt 18446744073709551616), .number .zero]]
    let spelled := rowOfCounts [.number (numeralOf true 0), .number (numeralOf false 7), beyond,
      .number tinyNumeral]
    spelled.toString = "[[],[null,-0,7,18446744073709551617,1E-400]]" ∧
      Cell.tableShape.ofText spelled.toString = .ok table ∧
        ∃ minus seven tiny quotedTable, Quotes minus (numeralOf true 0) ∧
          Quotes seven (numeralOf false 7) ∧ Quotes tiny tinyNumeral ∧
          Cell.tableShape.ofText
            (rowOfCounts [.string minus, .string seven, beyond, .string tiny]).toString =
              .ok quotedTable ∧ DrawnQuoted table quotedTable True := by
  intro beyond table spelled
  have written : spelled.toString = "[[],[null,-0,7,18446744073709551617,1E-400]]" := by
    decide +kernel
  have read : Cell.tableShape.ofTextBy .stepwise spelled.toString = .ok table := by
    decide +kernel
  have blank : ∀ c ∈ [' ', '\u3000'], Text.isBlank c = true := List.all_eq_true.mp (by decide)
  obtain ⟨minus, quotesMinus, -⟩ := exists_quotes (numeralOf true 0) blank blank
  obtain ⟨seven, quotesSeven, -⟩ := exists_quotes (numeralOf false 7) blank blank
  obtain ⟨tiny, quotesTiny, -⟩ := exists_quotes tinyNumeral blank blank
  have roundsMinus : RoundsOnce .stepwise (numeralOf true 0) :=
    roundsOnce_of_short .stepwise (by decide) (by decide) (by decide)
  have integer : (numeralOf false 7).literal.value .stepwise = .ok (.int 7) := by decide +kernel
  have roundsTiny : RoundsOnce .stepwise tinyNumeral := by
    unfold RoundsOnce
    decide +kernel
  have changed : CountsQuoted .stepwise spelled
      (rowOfCounts [.string minus, .string seven, beyond, .string tiny]) :=
    .row _ _ _ _ _ _ _ _ _ (.cons (.quoted _ _ quotesMinus roundsMinus)
      (.cons (.quoted _ _ quotesSeven (roundsOnce_of_int integer))
        (.cons (.kept _) (.cons (.quoted _ _ quotesTiny roundsTiny) .nil))))
  obtain ⟨quotedTable, readQuoted, drawn⟩ := (drawnQuoted_of_countsQuoted read).2 _ _ rfl changed
  rw [Shape.ofTextBy_stepwise] at read readQuoted
  have different : rowOfCounts [.string minus, .string seven, beyond, .string tiny] ≠ spelled := by
    intro same
    simp [rowOfCounts, spelled] at same
  exact ⟨written, read, minus, seven, tiny, quotedTable, quotesMinus, quotesSeven, quotesTiny,
    readQuoted, drawn.permissive, fun _ => drawn.strict different⟩

end Report

end ReportCharts
