import ReportCharts.Proofs.Rendering.Modes

/-!
What a weekly table becomes.

Two rows are read, and of the header no more cells than the value row has. Every count becomes one
series, in its place and under the week above it; a strict reading stops at the first count that is no
number, and nothing else stops a reading of a table that has a value row.
-/

namespace ReportCharts

namespace Cell

theorem count_eq_getD (cell : Cell) : cell.count = cell.number?.getD cell.count := by
  cases cell with
  | number value => rfl
  | text content => rfl
  | empty => rfl

/-- The first of some cells that is no number, with how many stand before it. -/
structure FirstUncounted (cells : List Cell) (index : Nat) (cell : Cell) : Prop where
  here : cells[index]? = some cell
  uncounted : ∀ value, cell ≠ .number value
  counted : ∀ earlier < index, ∃ value, cells[earlier]? = some (.number value)

theorem FirstUncounted.cons {cells : List Cell} {index : Nat} {cell : Cell}
    (first : FirstUncounted cells index cell) (value : Binary64) :
    FirstUncounted (.number value :: cells) (index + 1) cell where
  here := first.here
  uncounted := first.uncounted
  counted := by
    intro earlier before
    cases earlier with
    | zero => exact ⟨value, rfl⟩
    | succ earlier => exact first.counted earlier (by omega)

theorem FirstUncounted.tail {head : Cell} {cells : List Cell} {index : Nat} {cell : Cell}
    (first : FirstUncounted (head :: cells) (index + 1) cell) :
    (∃ value, head = .number value) ∧ FirstUncounted cells index cell := by
  constructor
  · obtain ⟨value, number⟩ := first.counted 0 (by omega)
    exact ⟨value, Option.some.inj number⟩
  · refine ⟨first.here, first.uncounted, ?_⟩
    intro earlier before
    exact first.counted (earlier + 1) (by omega)

theorem exists_firstUncounted {cells : List Cell}
    (exception : ¬∀ cell ∈ cells, ∃ value, cell = .number value) :
    ∃ index cell, FirstUncounted cells index cell := by
  induction cells with
  | nil => simp at exception
  | cons head rest inductionHypothesis =>
      by_cases number : ∃ value, head = .number value
      · obtain ⟨value, rfl⟩ := number
        have behind : ¬∀ cell ∈ rest, ∃ value, cell = .number value := by
          intro numbers
          apply exception
          intro cell member
          rcases List.mem_cons.mp member with rfl | member
          · exact ⟨value, rfl⟩
          · exact numbers cell member
        obtain ⟨index, cell, first⟩ := inductionHypothesis behind
        exact ⟨index + 1, cell, first.cons value⟩
      · refine ⟨0, head, rfl, ?_, ?_⟩
        · intro value same
          exact number ⟨value, same⟩
        · intro earlier before
          omega

end Cell

namespace Report

def weekOf (weeks : List Cell) (index : Nat) (cell : Cell) : Series :=
  ⟨((weeks[index]?).map Cell.label).getD "", [cell.count], some (Palette.color index)⟩

theorem eq_weekOf_of_weekSeries {mode : Strictness} {weeks : List Cell} {index : Nat} {cell : Cell}
    {series : Series} (read : weekSeries mode weeks index cell = .ok series) :
    series = weekOf weeks index cell := by
  cases mode with
  | permissive =>
      unfold weekSeries at read
      rw [Cell.countIn_permissive] at read
      cases read
      rfl
  | strict =>
      obtain ⟨value, rfl⟩ := number_of_weekSeries_strict read
      cases read
      rfl

theorem weekSeries_of_uncounted {cell : Cell} (uncounted : ∀ value, cell ≠ .number value)
    (weeks : List Cell) (index : Nat) :
    weekSeries .strict weeks index cell =
      .error (.dataParse ("count in column " ++ toString (index + 1) ++ " is not numeric: " ++
        cell.shown)) := by
  cases cell with
  | number value => exact absurd rfl (uncounted value)
  | text content => rfl
  | empty => rfl

/-- Nothing is lost, moved or added among the series of a reading that gives any. -/
theorem eq_mapIdx_of_weekSeriesFrom {mode : Strictness} {weeks cells : List Cell} {index : Nat}
    {series : List Series} (read : weekSeriesFrom mode weeks index cells = .ok series) :
    series = cells.mapIdx fun offset cell => weekOf weeks (index + offset) cell := by
  -- from any position on, since the counts behind the first one keep their places
  induction cells generalizing index series with
  | nil =>
      cases read
      rfl
  | cons cell rest inductionHypothesis =>
      rw [weekSeriesFrom_cons] at read
      cases readFirst : weekSeries mode weeks index cell with
      | error fault =>
          rw [readFirst] at read
          cases read
      | ok first =>
          rw [readFirst] at read
          cases readOthers : weekSeriesFrom mode weeks (index + 1) rest with
          | error fault =>
              rw [readOthers] at read
              cases read
          | ok others =>
              rw [readOthers] at read
              cases read
              have place : ∀ offset, index + 1 + offset = index + (offset + 1) := by omega
              rw [List.mapIdx_cons, eq_weekOf_of_weekSeries readFirst,
                inductionHypothesis readOthers]
              simp only [place]
              rfl

theorem weekSeriesFrom_of_firstUncounted {weeks cells : List Cell} {index offset : Nat} {cell : Cell}
    (first : Cell.FirstUncounted cells offset cell) :
    weekSeriesFrom .strict weeks index cells =
      .error (.dataParse ("count in column " ++ toString (index + offset + 1) ++
        " is not numeric: " ++ cell.shown)) := by
  induction cells generalizing index offset with
  | nil => cases first.here
  | cons head rest inductionHypothesis =>
      rw [weekSeriesFrom_cons]
      cases offset with
      | zero =>
          obtain rfl : head = cell := Option.some.inj first.here
          rw [weekSeries_of_uncounted first.uncounted]
          rfl
      | succ offset =>
          obtain ⟨⟨value, rfl⟩, behind⟩ := first.tail
          have place : index + 1 + offset + 1 = index + (offset + 1) + 1 := by omega
          rw [inductionHypothesis behind, place, weekSeries_number]
          rfl

theorem exists_weekSeriesFrom_strict_iff {weeks cells : List Cell} {index : Nat} :
    (∃ series, weekSeriesFrom .strict weeks index cells = .ok series) ↔
      ∀ cell ∈ cells, ∃ value, cell = .number value := by
  constructor
  · rintro ⟨series, read⟩
    exact numbers_of_weekSeriesFrom_strict read
  · intro numbers
    rw [weekSeriesFrom_of_numbers numbers]
    exact weekSeriesFrom_permissive weeks index cells

/-- No reading fails for another reason than a first count that is no number. -/
theorem exists_firstUncounted_of_weekSeriesFrom {mode : Strictness} {weeks cells : List Cell}
    {index : Nat} {fault : ChartFault}
    (failed : weekSeriesFrom mode weeks index cells = .error fault) :
    ∃ offset cell, Cell.FirstUncounted cells offset cell ∧
      fault = .dataParse ("count in column " ++ toString (index + offset + 1) ++
        " is not numeric: " ++ cell.shown) := by
  cases mode with
  | permissive =>
      obtain ⟨series, read⟩ := weekSeriesFrom_permissive weeks index cells
      rw [read] at failed
      cases failed
  | strict =>
      have exception : ¬∀ cell ∈ cells, ∃ value, cell = .number value := by
        intro numbers
        obtain ⟨series, read⟩ := exists_weekSeriesFrom_strict_iff.mpr numbers
        rw [read] at failed
        cases failed
      obtain ⟨offset, cell, first⟩ := Cell.exists_firstUncounted exception
      rw [weekSeriesFrom_of_firstUncounted first] at failed
      exact ⟨offset, cell, first, (Except.error.inj failed).symm⟩

theorem weekSeriesFrom_congr {mode : Strictness} {weeks others cells : List Cell} {index : Nat}
    (same : ∀ offset < cells.length, weeks[index + offset]? = others[index + offset]?) :
    weekSeriesFrom mode weeks index cells = weekSeriesFrom mode others index cells := by
  induction cells generalizing index with
  | nil => rfl
  | cons cell rest inductionHypothesis =>
      have first : weekSeries mode weeks index cell = weekSeries mode others index cell := by
        have here : weeks[index]? = others[index]? := same 0 (by simp)
        unfold weekSeries
        rw [here]
      have sameBehind : ∀ offset < rest.length,
          weeks[index + 1 + offset]? = others[index + 1 + offset]? := by
        intro offset inside
        have place : index + 1 + offset = index + (offset + 1) := by omega
        rw [place]
        exact same (offset + 1) (by simpa using inside)
      rw [weekSeriesFrom_cons, weekSeriesFrom_cons, first, inductionHypothesis sameBehind]

/-- The rows of a table that are read, the header cut to as many cells as the value row has. -/
def readPart : List (List Cell) → List (List Cell)
  | header :: values :: _ => [header.take values.length, values]
  | table => table

theorem ofWeeklyTable_readPart (table : List (List Cell)) (mode : Strictness) :
    ofWeeklyTable (readPart table) mode = ofWeeklyTable table mode := by
  match table with
  | [] => rfl
  | [header] => rfl
  | header :: [] :: others => rfl
  | header :: (category :: counts) :: others =>
      have weeks : weekSeriesFrom mode ((header.take (counts.length + 1)).drop 1) 0 counts =
          weekSeriesFrom mode (header.drop 1) 0 counts := by
        apply weekSeriesFrom_congr
        intro offset inside
        rw [List.getElem?_drop, List.getElem?_drop, List.getElem?_take_of_lt (by omega)]
      rw [readPart, List.length_cons, ofWeeklyTable_counts, ofWeeklyTable_counts, weeks]

section

variable {mode : Strictness} {header counts : List Cell} {category : Cell}
  {others : List (List Cell)}

theorem ofWeeklyTable_eq_ok_iff {report : Report} :
    ofWeeklyTable (header :: (category :: counts) :: others) mode = .ok report ↔
      ∃ series, weekSeriesFrom mode (header.drop 1) 0 counts = .ok series ∧
        report = ⟨[category.label], series⟩ := by
  rw [ofWeeklyTable_counts]
  cases weekSeriesFrom mode (header.drop 1) 0 counts with
  | error fault => simp [Except.map]
  | ok series => simp [Except.map, eq_comm]

theorem ofWeeklyTable_eq_error_iff {fault : ChartFault} :
    ofWeeklyTable (header :: (category :: counts) :: others) mode = .error fault ↔
      weekSeriesFrom mode (header.drop 1) 0 counts = .error fault := by
  rw [ofWeeklyTable_counts]
  cases weekSeriesFrom mode (header.drop 1) 0 counts with
  | error fault => simp [Except.map]
  | ok series => simp [Except.map]

end

/-- Every count of a row once and in its place, under the week of the header above it. -/
structure HoldsCounts (report : Report) (header : List Cell) (category : Cell)
    (counts : List Cell) : Prop where
  labels : report.labels = [category.label]
  length : report.series.length = counts.length
  series : ∀ index cell, counts[index]? = some cell →
    report.series[index]? = some (⟨(header[index + 1]?).elim "" Cell.label,
      [cell.number?.getD cell.count], Palette.colors[index % 15]?⟩ : Series)

structure RowReading (mode : Strictness) (header : List Cell) (category : Cell)
    (counts : List Cell) (result : Except ChartFault Report) : Prop where
  permissive : mode = .permissive → ∃ report, result = .ok report
  strict : mode = .strict →
    ((∃ report, result = .ok report) ↔ ∀ cell ∈ counts, ∃ value, cell = .number value)
  /-- The columns of the counts are numbered from one. -/
  refused : ∀ fault, result = .error fault → ∃ index cell, Cell.FirstUncounted counts index cell ∧
    fault = .dataParse ("count in column " ++ toString (index + 1) ++ " is not numeric: " ++
      cell.shown)
  holds : ∀ report, result = .ok report → report.HoldsCounts header category counts

theorem holdsCounts_of_weekSeriesFrom {mode : Strictness} {header counts : List Cell}
    {series : List Series} (category : Cell)
    (read : weekSeriesFrom mode (header.drop 1) 0 counts = .ok series) :
    HoldsCounts ⟨[category.label], series⟩ header category counts := by
  obtain rfl := eq_mapIdx_of_weekSeriesFrom read
  refine ⟨rfl, by simp, ?_⟩
  intro index cell here
  have week : ((header.drop 1)[index]?) = header[index + 1]? := by
    rw [List.getElem?_drop, Nat.add_comm]
  rw [List.getElem?_mapIdx, here, Palette.getElem?_colors, ← Cell.count_eq_getD]
  simp only [Option.map_some, Nat.zero_add, weekOf, week]
  cases header[index + 1]? with
  | none => rfl
  | some week => rfl

theorem HoldsCounts.wellFormed {report : Report} {header counts : List Cell} {category : Cell}
    (holds : report.HoldsCounts header category counts) : report.WellFormed := by
  intro series member
  obtain ⟨index, here⟩ := List.mem_iff_getElem?.mp member
  have inside : index < counts.length := by
    rw [← holds.length]
    exact (List.getElem?_eq_some_iff.mp here).1
  have series := holds.series index counts[index] (List.getElem?_eq_getElem inside)
  rw [here] at series
  rw [holds.labels, Option.some.inj series]
  rfl

theorem rowReading_ofWeeklyTable (mode : Strictness) (header : List Cell) (category : Cell)
    (counts : List Cell) (others : List (List Cell)) :
    RowReading mode header category counts
      (ofWeeklyTable (header :: (category :: counts) :: others) mode) where
  permissive permissive := by
    subst permissive
    obtain ⟨series, read⟩ := weekSeriesFrom_permissive (header.drop 1) 0 counts
    exact ⟨_, ofWeeklyTable_eq_ok_iff.mpr ⟨series, read, rfl⟩⟩
  strict strict := by
    subst strict
    rw [← exists_weekSeriesFrom_strict_iff]
    constructor
    · rintro ⟨report, read⟩
      obtain ⟨series, readSeries, -⟩ := ofWeeklyTable_eq_ok_iff.mp read
      exact ⟨series, readSeries⟩
    · rintro ⟨series, read⟩
      exact ⟨_, ofWeeklyTable_eq_ok_iff.mpr ⟨series, read, rfl⟩⟩
  refused fault failed := by
    rw [ofWeeklyTable_eq_error_iff] at failed
    simpa only [Nat.zero_add] using exists_firstUncounted_of_weekSeriesFrom failed
  holds report read := by
    obtain ⟨series, readSeries, rfl⟩ := ofWeeklyTable_eq_ok_iff.mp read
    exact holdsCounts_of_weekSeriesFrom category readSeries

theorem wellFormed_ofWeeklyTable {table : List (List Cell)} {mode : Strictness} {report : Report}
    (read : ofWeeklyTable table mode = .ok report) : report.WellFormed := by
  match table with
  | [] =>
      cases read
      intro series member
      cases member
  | [header] => cases read
  | header :: [] :: others => cases read
  | header :: (category :: counts) :: others =>
      have reading := rowReading_ofWeeklyTable mode header category counts others
      exact (reading.holds report read).wellFormed

/--
What a weekly table becomes: without rows the empty report, without a label in a value row a fault,
and otherwise a report that holds every count in its place, unless a strict reading meets a count that
is no number.
-/
theorem ofWeeklyTable_accounts (mode : Strictness) :
    ofWeeklyTable [] mode = .ok .empty ∧
      (∀ header, ofWeeklyTable [header] mode =
        .error (.invalidFormat "a header row and a value row" "header row only")) ∧
      (∀ header others, ofWeeklyTable (header :: [] :: others) mode =
        .error (.invalidFormat "a record type label in the value row" "empty value row")) ∧
      (∀ header category counts others, RowReading mode header category counts
        (ofWeeklyTable (header :: (category :: counts) :: others) mode)) ∧
      (∀ table, ofWeeklyTable (readPart table) mode = ofWeeklyTable table mode) ∧
      ∀ table report, ofWeeklyTable table mode = .ok report → report.checkLengths = .ok () := by
  refine ⟨rfl, fun _ => rfl, fun _ _ => rfl, ?_, ?_, ?_⟩
  · exact rowReading_ofWeeklyTable mode
  · intro table
    exact ofWeeklyTable_readPart table mode
  · intro table report read
    exact checkLengths_eq_ok_iff.mpr (wellFormed_ofWeeklyTable read)

theorem ofWeeklyTable_accounts_ragged :
    let header : List Cell := [.text "T", .text "Week 2"]
    let counts : List Cell := [.number .zero, .text " 12 ", .empty]
    let table := [header, .text "t" :: counts, [.empty]]
    (∀ report, ofWeeklyTable table .strict ≠ .ok report) ∧
      ∃ report, ofWeeklyTable table .permissive = .ok report ∧
        report.HoldsCounts header (.text "t") counts ∧ report.checkLengths = .ok () := by
  intro header counts table
  obtain ⟨-, -, -, strict, -, -⟩ := ofWeeklyTable_accounts .strict
  obtain ⟨-, -, -, permissive, -, checked⟩ := ofWeeklyTable_accounts .permissive
  constructor
  · intro report read
    have numbers := ((strict header (.text "t") counts [[.empty]]).strict rfl).mp ⟨report, read⟩
    obtain ⟨value, number⟩ := numbers .empty (by simp [counts])
    cases number
  · have reading := permissive header (.text "t") counts [[.empty]]
    obtain ⟨report, read⟩ := reading.permissive rfl
    exact ⟨report, read, reading.holds report read, checked table report read⟩

end Report

end ReportCharts
