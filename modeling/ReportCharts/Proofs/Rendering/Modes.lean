import ReportCharts.Proofs.Text.Decimal
import ReportCharts.Rendering
import ReportCharts.Weekly

/-!
The two modes of checking, side by side.

Strict mode refuses some of what permissive mode takes and changes nothing else. That holds at each of
the three places that look at the mode: a weekly table becomes the same report in both modes or is
refused by the strict one, the check of a report warns in one mode where it fails in the other, and a
rendering hands the same chart to its drawer in both modes unless the strict one stops before.
-/

namespace ReportCharts

namespace Cell

theorem countIn_number (mode : Strictness) (column : Nat) (value : Binary64) :
    (Cell.number value).countIn mode column = .ok value := rfl

theorem countIn_strict_eq_ok_iff {cell : Cell} {column : Nat} {value : Binary64} :
    cell.countIn .strict column = .ok value ↔ cell = .number value := by
  cases cell with
  | number count => simp [countIn]
  | text content => simp [countIn]
  | empty => simp [countIn]

end Cell

namespace Report

/-- The cells that a table gives as counts: those of its second row, without the first of them. -/
def countCells (table : List (List Cell)) : List Cell := ((table[1]?).getD []).drop 1

theorem weekSeries_permissive (weeks : List Cell) (index : Nat) (cell : Cell) :
    ∃ series, weekSeries .permissive weeks index cell = .ok series := by
  unfold weekSeries
  rw [Cell.countIn_permissive]
  exact ⟨_, rfl⟩

theorem weekSeries_number (mode : Strictness) (weeks : List Cell) (index : Nat)
    (value : Binary64) :
    weekSeries mode weeks index (.number value) =
      weekSeries .permissive weeks index (.number value) := by
  unfold weekSeries
  rw [Cell.countIn_number, Cell.countIn_number]

theorem number_of_weekSeries_strict {weeks : List Cell} {index : Nat} {cell : Cell}
    {series : Series} (read : weekSeries .strict weeks index cell = .ok series) :
    ∃ value, cell = .number value := by
  unfold weekSeries at read
  cases counted : cell.countIn .strict (index + 1) with
  | error fault =>
      rw [counted] at read
      cases read
  | ok value => exact ⟨value, Cell.countIn_strict_eq_ok_iff.mp counted⟩

theorem weekSeriesFrom_cons (mode : Strictness) (weeks : List Cell) (index : Nat) (cell : Cell)
    (rest : List Cell) :
    weekSeriesFrom mode weeks index (cell :: rest) =
      (weekSeries mode weeks index cell).bind fun series =>
        (weekSeriesFrom mode weeks (index + 1) rest).map fun others => series :: others := by
  rw [weekSeriesFrom]
  cases weekSeries mode weeks index cell with
  | error fault => rfl
  | ok series => cases weekSeriesFrom mode weeks (index + 1) rest <;> rfl

theorem weekSeriesFrom_permissive (weeks : List Cell) (index : Nat) (cells : List Cell) :
    ∃ series, weekSeriesFrom .permissive weeks index cells = .ok series := by
  induction cells generalizing index with
  | nil => exact ⟨[], rfl⟩
  | cons cell rest inductionHypothesis =>
      obtain ⟨first, readFirst⟩ := weekSeries_permissive weeks index cell
      obtain ⟨others, readOthers⟩ := inductionHypothesis (index + 1)
      rw [weekSeriesFrom_cons, readFirst, readOthers]
      exact ⟨first :: others, rfl⟩

/-- Where all counts are numbers there is nothing that the modes could disagree about. -/
theorem weekSeriesFrom_of_numbers {cells : List Cell}
    (numbers : ∀ cell ∈ cells, ∃ value, cell = .number value) (weeks : List Cell) (index : Nat) :
    weekSeriesFrom .strict weeks index cells = weekSeriesFrom .permissive weeks index cells := by
  induction cells generalizing index with
  | nil => rfl
  | cons cell rest inductionHypothesis =>
      obtain ⟨value, rfl⟩ := numbers cell (by simp)
      have same := inductionHypothesis (fun cell member => numbers cell (by simp [member]))
        (index + 1)
      rw [weekSeriesFrom_cons, weekSeriesFrom_cons, weekSeries_number .strict, same]

theorem numbers_of_weekSeriesFrom_strict {weeks cells : List Cell} {index : Nat}
    {series : List Series} (read : weekSeriesFrom .strict weeks index cells = .ok series) :
    ∀ cell ∈ cells, ∃ value, cell = .number value := by
  induction cells generalizing index series with
  | nil => simp
  | cons cell rest inductionHypothesis =>
      rw [weekSeriesFrom_cons] at read
      cases readFirst : weekSeries .strict weeks index cell with
      | error fault =>
          rw [readFirst] at read
          cases read
      | ok first =>
          rw [readFirst] at read
          cases readOthers : weekSeriesFrom .strict weeks (index + 1) rest with
          | error fault =>
              rw [readOthers] at read
              cases read
          | ok others =>
              intro other member
              rcases List.mem_cons.mp member with rfl | member
              · exact number_of_weekSeries_strict readFirst
              · exact inductionHypothesis readOthers other member

theorem ofWeeklyTable_counts (header : List Cell) (category : Cell) (counts : List Cell)
    (others : List (List Cell)) (mode : Strictness) :
    ofWeeklyTable (header :: (category :: counts) :: others) mode =
      (weekSeriesFrom mode (header.drop 1) 0 counts).map fun series =>
        ⟨[category.label], series⟩ := by
  rw [ofWeeklyTable]
  cases weekSeriesFrom mode (header.drop 1) 0 counts <;> rfl

theorem table_cases (table : List (List Cell)) :
    (countCells table = [] ∧
        ofWeeklyTable table .strict = ofWeeklyTable table .permissive) ∨
      ∃ header category counts others,
        table = header :: (category :: counts) :: others ∧ countCells table = counts := by
  match table with
  | [] => exact .inl ⟨rfl, rfl⟩
  | [header] => exact .inl ⟨rfl, rfl⟩
  | header :: [] :: others => exact .inl ⟨rfl, rfl⟩
  | header :: (category :: counts) :: others =>
      exact .inr ⟨header, category, counts, others, rfl, rfl⟩

/-- How the two readings of a table compare. -/
structure TableModes (table : List (List Cell)) : Prop where
  failure : ∀ fault, ofWeeklyTable table .permissive = .error fault →
    ofWeeklyTable table .strict = .error fault
  report : ∀ report, ofWeeklyTable table .strict = .ok report →
    ofWeeklyTable table .permissive = .ok report
  /-- Exactly the tables with a count that is no number are refused by the strict reading alone. -/
  removed : ((∃ fault, ofWeeklyTable table .strict = .error fault) ∧
      ∃ report, ofWeeklyTable table .permissive = .ok report) ↔
    ∃ cell ∈ countCells table, ∀ value, cell ≠ .number value

theorem tableModes_of_eq {table : List (List Cell)}
    (same : ofWeeklyTable table .strict = ofWeeklyTable table .permissive)
    (numbers : ∀ cell ∈ countCells table, ∃ value, cell = .number value) : TableModes table where
  failure fault failed := by rw [same, failed]
  report report read := by rw [← same, read]
  removed := by
    constructor
    · rintro ⟨⟨fault, failed⟩, report, read⟩
      rw [same, read] at failed
      cases failed
    · rintro ⟨cell, member, noNumber⟩
      obtain ⟨value, number⟩ := numbers cell member
      exact absurd number (noNumber value)

theorem tableModes (table : List (List Cell)) : TableModes table := by
  rcases table_cases table with ⟨noCounts, same⟩ | ⟨header, category, counts, others, rfl, cells⟩
  · apply tableModes_of_eq same
    rw [noCounts]
    simp
  · by_cases numbers : ∀ cell ∈ counts, ∃ value, cell = .number value
    · apply tableModes_of_eq
      · rw [ofWeeklyTable_counts, ofWeeklyTable_counts, weekSeriesFrom_of_numbers numbers]
      · rwa [cells]
    · obtain ⟨series, taken⟩ := weekSeriesFrom_permissive (header.drop 1) 0 counts
      have permissive := ofWeeklyTable_counts header category counts others .permissive
      have strict := ofWeeklyTable_counts header category counts others .strict
      rw [taken] at permissive
      cases refused : weekSeriesFrom .strict (header.drop 1) 0 counts with
      | ok series => exact absurd (numbers_of_weekSeriesFrom_strict refused) numbers
      | error fault =>
          rw [refused] at strict
          refine ⟨?_, ?_, ?_⟩
          · intro fault failed
            rw [permissive] at failed
            cases failed
          · intro report read
            rw [strict] at read
            cases read
          · have exception : ∃ cell ∈ counts, ∀ value, cell ≠ .number value := by
              simpa using numbers
            rw [cells]
            exact ⟨fun _ => exception, fun _ => ⟨⟨fault, strict⟩, ⟨_, permissive⟩⟩⟩

end Report

/-- No other fault has the message of a mismatch. -/
theorem ChartFault.eq_of_message_malformedReport {fault : ChartFault} {series : String}
    {expected actual : Nat}
    (same : fault.message = (malformedReport series expected actual).message) :
    fault = .malformedReport series expected actual := by
  unfold message at same
  cases fault with
  | malformedReport other wanted found =>
      have values : " values but there are " = " values but there are" ++ " " := by decide
      have has : " has " = " has" ++ " " := by decide
      rw [String.append_left_inj, values, has] at same
      simp only [← String.append_assoc] at same
      obtain ⟨counted, sameWanted⟩ := Text.append_blank_number_inj same
      rw [String.append_left_inj] at counted
      obtain ⟨named, sameFound⟩ := Text.append_blank_number_inj counted
      rw [String.append_left_inj, String.append_right_inj] at named
      rw [named, sameFound, sameWanted]
  | _ =>
      -- the other messages begin with other letters
      have start := congrArg (fun text => text.toList.head?) same
      simp at start

namespace Report

structure ScreenModes (report : Report) : Prop where
  warned : ∀ fault, report.screen .strict = .error fault ↔
    report.screen .permissive =
      .ok [⟨.warn, "Drawing malformed report: " ++ fault.message⟩]
  silent : (∀ fault, report.screen .strict ≠ .error fault) →
    report.screen .strict = .ok [] ∧ report.screen .permissive = .ok []

theorem screenModes (report : Report) : ScreenModes report := by
  rcases report.screen_cases with ⟨-, passes⟩ | ⟨-, series, -, strict, permissive⟩
  · refine ⟨?_, fun _ => ⟨passes .strict, passes .permissive⟩⟩
    intro fault
    rw [passes .strict, passes .permissive]
    simp
  · refine ⟨?_, fun passes => absurd strict (passes _)⟩
    intro other
    rw [strict, permissive]
    constructor
    · intro same
      cases same
      rfl
    · intro same
      have texts : (report.mismatchFault series).message = other.message := by
        simpa [warning, String.append_right_inj] using same
      rw [ChartFault.eq_of_message_malformedReport texts.symm]
      rfl

end Report

/-- How the two renderings of a report for a drawer compare. -/
structure Preset.RenderModes {Drawer : Type}
    (draw : Drawer → Chart → Except SettingsFault Unit × Drawer) (drawer : Drawer)
    (preset : Preset) (report : Report) : Prop where
  unusable : ∀ fault, preset.options.check = .error fault → ∀ mode,
    preset.render draw drawer report mode = ⟨.error fault, [], drawer⟩
  admitted : preset.options.check = .ok () → (∀ fault, report.screen .strict ≠ .error fault) →
    preset.render draw drawer report .strict = preset.render draw drawer report .permissive ∧
      ∀ mode,
        (∀ line ∈ (preset.render draw drawer report mode).logs, line.level ≠ .warn) ∧
          ((preset.render draw drawer report mode).outcome,
              (preset.render draw drawer report mode).drawer) =
            draw drawer (preset.chart report)
  /-- The strict one stops before the drawer where the other warns first and hands the chart over. -/
  refused : ∀ fault, preset.options.check = .ok () → report.screen .strict = .error fault →
    (∃ series expected actual, fault = .malformedReport series expected actual) ∧
      preset.render draw drawer report .strict = ⟨.error (.chart fault), [], drawer⟩ ∧
      preset.render draw drawer report .permissive =
        ⟨(draw drawer (preset.chart report)).1,
          [⟨.warn, "Drawing malformed report: " ++ fault.message⟩,
            preset.drawingLine (preset.chart report)],
          (draw drawer (preset.chart report)).2⟩
  /-- Only the check of the report stops a rendering for a mismatch, unless the drawer does. -/
  malformed : ∀ series expected actual,
    (preset.render draw drawer report .strict).outcome =
        .error (.chart (.malformedReport series expected actual)) →
      preset.options.check = .ok () ∧
          report.screen .strict = .error (.malformedReport series expected actual) ∨
        (draw drawer (preset.chart report)).1 =
          .error (.chart (.malformedReport series expected actual))

theorem Preset.renderModes {Drawer : Type}
    (draw : Drawer → Chart → Except SettingsFault Unit × Drawer) (drawer : Drawer)
    (preset : Preset) (report : Report) : RenderModes draw drawer preset report where
  unusable fault checked mode := render_of_unusable draw drawer checked
  admitted checked passes := by
    obtain ⟨strict, permissive⟩ := report.screenModes.silent passes
    have both : ∀ mode, report.screen mode = .ok [] := by
      intro mode
      cases mode with
      | permissive => exact permissive
      | strict => exact strict
    constructor
    · rw [render_of_admitted draw drawer checked strict,
        render_of_admitted draw drawer checked permissive]
    · intro mode
      rw [render_of_admitted draw drawer checked (both mode)]
      constructor
      · simp [drawingLine]
      · rfl
  refused fault checked strict := by
    have permissive := (report.screenModes.warned fault).mp strict
    refine ⟨?_, render_of_refused draw drawer checked strict,
      render_of_admitted draw drawer checked permissive⟩
    rcases report.screen_cases with ⟨-, passes⟩ | ⟨-, series, -, stopped, -⟩
    · rw [passes .strict] at strict
      cases strict
    · rw [stopped] at strict
      cases strict
      exact ⟨_, _, _, rfl⟩
  malformed series expected actual ended := by
    cases checked : preset.options.check with
    | error fault =>
        obtain ⟨why, rfl⟩ := Options.exists_unusable_of_check checked
        rw [render_of_unusable draw drawer checked] at ended
        cases ended
    | ok usable =>
        cases screened : report.screen .strict with
        | error fault =>
            rw [render_of_refused draw drawer checked screened] at ended
            cases ended
            exact .inl ⟨rfl, rfl⟩
        | ok warnings =>
            rw [render_of_admitted draw drawer checked screened] at ended
            exact .inr ended

/--
Strict mode only takes outcomes away: of tables, of checked reports, and of renderings for whatever
drawer.
-/
theorem strict_narrows :
    (∀ table, Report.TableModes table) ∧
      (∀ report, Report.ScreenModes report) ∧
      ∀ (Drawer : Type) (draw : Drawer → Chart → Except SettingsFault Unit × Drawer)
        (drawer : Drawer) (preset : Preset) (report : Report),
        preset.RenderModes draw drawer report := by
  refine ⟨Report.tableModes, Report.screenModes, ?_⟩
  intro Drawer draw drawer preset report
  exact preset.renderModes draw drawer report

end ReportCharts
