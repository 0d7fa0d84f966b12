import ReportCharts.Proofs.Chart.Data
import ReportCharts.Proofs.Page.Ending
import ReportCharts.Proofs.Page.GenericCalls
import ReportCharts.Proofs.Page.KeyOrder

/-!
The breakdown of a record class by week, drawn from an object of counts.

The keys of the object are read in the order in which a script sees them, up to the first whose value is
no number. Where there is none, every key becomes one dataset in its place.
-/

namespace ReportCharts

namespace Report

theorem wellFormed_ofWeeks (name : String) (weeks : List (String × Binary64)) :
    (ofWeeks name weeks).WellFormed := by
  intro series member
  obtain ⟨index, inside, rfl⟩ := List.mem_mapIdx.mp member
  rfl

theorem getElem?_series_ofWeeks (name : String) (weeks : List (String × Binary64)) (index : Nat) :
    (ofWeeks name weeks).series[index]? = (weeks[index]?).map fun week =>
      ⟨"Week " ++ week.1, [week.2], some (Palette.color index)⟩ := by
  rw [ofWeeks, List.getElem?_mapIdx]

end Report

theorem Chart.datasetOf_colored {report : Report} {index : Nat} {series : Series} {color : String}
    (colored : series.color = some color) :
    datasetOf report .perSeries none index series =
      ⟨series.label, some (.single color), series.values⟩ := by
  rw [datasetOf, fillOf, colored, labelOf]
  exact congrArg (Dataset.mk · _ _) (ite_self _)

namespace Page

open HostValue

/-- Entries up to one that is no number, which is then the first. -/
structure FirstUncounted (entries before : List (String × HostValue)) (week : String)
    (value : HostValue) : Prop where
  splits : ∃ after, entries = before ++ (week, value) :: after
  numbers : ∀ entry ∈ before, ∃ count, entry.2 = .number count
  uncounted : ∀ count, value ≠ .number count

theorem countEntries_cases (entries : List (String × HostValue)) :
    (∃ counts, countEntries entries = .ok counts ∧
      entries = counts.map fun count => (count.1, .number count.2)) ∨
    ∃ before week value, FirstUncounted entries before week value ∧
      countEntries entries = .error (.dataParse ("count for week " ++ week ++ " is not a number")) := by
  induction entries with
  | nil => exact .inl ⟨[], rfl, rfl⟩
  | cons entry rest inductionHypothesis =>
      obtain ⟨week, value⟩ := entry
      rw [countEntries]
      cases number : value.number? with
      | none =>
          refine .inr ⟨[], week, value, ⟨⟨rest, rfl⟩, by simp, ?_⟩, rfl⟩
          rintro count rfl
          cases number
      | some count =>
          obtain rfl := number?_eq_some_iff.mp number
          rcases inductionHypothesis with
            ⟨counts, read, rfl⟩ | ⟨before, first, found, ⟨⟨after, rfl⟩, numbers, uncounted⟩, failed⟩
          · exact .inl ⟨(week, count) :: counts, by rw [read]; rfl, rfl⟩
          · refine .inr ⟨(week, .number count) :: before, first, found, ⟨⟨after, rfl⟩, ?_, uncounted⟩, ?_⟩
            · simpa using numbers
            · rw [failed]
              rfl

section

variable (settings : List (String × HostValue))

/-- The value that a key was set to last is a number. -/
def Counted (key : String) : Prop := ∃ count, lastSet? settings key = some (.number count)

/-- One dataset for every key in its place, with the count that the key was set to last. -/
structure ShowsWeeks (chart : Chart) (name : String) (keys : List String) : Prop where
  labels : chart.data.labels = [name]
  length : chart.data.datasets.length = keys.length
  weeks : ∀ (index : Nat) (key : String), keys[index]? = some key → ∃ count color,
    lastSet? settings key = some (.number count) ∧ Palette.colors[index % 15]? = some color ∧
      chart.data.datasets[index]? = some ⟨"Week " ++ key, some (.single color), [count]⟩

theorem lastSet?_of_mem_ordered {key : String} {value : HostValue}
    (member : (key, value) ∈ ordered (membersOf settings)) : lastSet? settings key = some value :=
  (mem_membersOf_iff settings).mp ((ordered_perm _).mem_iff.mp member)

theorem weeklyCounts_ofSettings :
    weeklyCounts (ofSettings settings) = countEntries (ordered (membersOf settings)) := rfl

theorem showsWeeks_chart {name : String} {counts : List (String × Binary64)}
    (entries : ordered (membersOf settings) = counts.map fun count => (count.1, .number count.2)) :
    ShowsWeeks settings (Preset.weeklyBreakdown.chart (.ofWeeks name counts)) name
      ((ordered (membersOf settings)).map Prod.fst) where
  labels := rfl
  length := by
    rw [List.length_map, entries, List.length_map]
    exact Chart.length_datasets.trans List.length_mapIdx
  weeks index key here := by
    rw [entries, List.map_map, List.getElem?_map] at here
    obtain ⟨⟨week, count⟩, there, rfl⟩ := Option.map_eq_some_iff.mp here
    refine ⟨count, Palette.color index, ?_, Palette.getElem?_colors index, ?_⟩
    · apply lastSet?_of_mem_ordered
      rw [entries]
      exact List.mem_map.mpr ⟨(week, count), List.mem_of_getElem? there, rfl⟩
    · refine (Chart.getElem?_datasets index).trans ?_
      rw [Report.getElem?_series_ofWeeks, there]
      exact congrArg some (Chart.datasetOf_colored rfl)

theorem counted_of_entries {counts : List (String × Binary64)}
    (entries : ordered (membersOf settings) = counts.map fun count => (count.1, .number count.2)) :
    ∀ key ∈ (ordered (membersOf settings)).map Prod.fst, Counted settings key := by
  intro key member
  obtain ⟨entry, there, rfl⟩ := List.mem_map.mp member
  have set := lastSet?_of_mem_ordered settings there
  rw [entries] at there
  obtain ⟨count, -, rfl⟩ := List.mem_map.mp there
  exact ⟨count.2, set⟩

structure FirstUncountedKey (keys : List String) (key : String) : Prop where
  splits : ∃ before after, keys = before ++ key :: after ∧ ∀ earlier ∈ before, Counted settings earlier
  uncounted : ¬Counted settings key

theorem FirstUncounted.key {before : List (String × HostValue)} {week : String} {value : HostValue}
    (first : FirstUncounted (ordered (membersOf settings)) before week value) :
    FirstUncountedKey settings ((ordered (membersOf settings)).map Prod.fst) week := by
  obtain ⟨⟨after, splits⟩, numbers, uncounted⟩ := first
  refine ⟨⟨before.map Prod.fst, after.map Prod.fst, by simp [splits], ?_⟩, ?_⟩
  · intro earlier member
    obtain ⟨entry, there, rfl⟩ := List.mem_map.mp member
    obtain ⟨count, isNumber⟩ := numbers entry there
    refine ⟨count, ?_⟩
    rw [← isNumber]
    apply lastSet?_of_mem_ordered
    rw [splits]
    exact List.mem_append_left _ there
  · rintro ⟨count, isNumber⟩
    have set : lastSet? settings week = some value := by
      apply lastSet?_of_mem_ordered
      rw [splits]
      exact List.mem_append_right _ (List.mem_cons_self ..)
    exact uncounted count (Option.some.inj (set.symm.trans isNumber))

end

namespace DrawingCall

variable (name : String) (words : Wording) (target : HostValue) (clock : UInt64)

/-- Whatever the charting library does: the call throws its envelope of a fault and draws nothing. -/
def Fails (call : DrawingCall) (fault : ChartFault) : Prop :=
  ∀ refusal, (call.run words target refusal clock).outcome = .error (call.envelope clock fault).toJson ∧
    (call.run words target refusal clock).handed = []

/-- With a library that takes every chart: the call succeeds and draws one chart on its target. -/
def DrawsOne (call : DrawingCall) (chart : Chart) : Prop :=
  (call.run words target none clock).outcome = .ok () ∧
    (call.run words target none clock).handed = [⟨target, chart⟩]

theorem fails_of_plan {call : DrawingCall} {fault : ChartFault}
    (planned : call.plan words = .error fault) : call.Fails words target clock fault := by
  intro refusal
  rw [(Ends.unread planned).run_eq_close clock]
  exact ⟨rfl, rfl⟩

theorem drawsOne_of_planOf {call : DrawingCall} {chart : DashboardChart} {report : Report}
    (planned : call.plan words = .ok (planOf chart report)) (wellFormed : report.WellFormed) :
    call.DrawsOne words target clock (chart.preset.chart report) := by
  have screened : report.screen .permissive = .ok [] := by
    unfold Report.screen
    rw [Report.checkLengths_eq_ok_iff.mpr wellFormed]
  have ends : call.Ends words target none _ _ _ := .admitted planned chart.check_preset screened
  rw [DrawsOne, ends.run_eq_close clock]
  exact ⟨rfl, rfl⟩

theorem plan_weeklyBreakdown {weeks : HostValue} {counts : List (String × Binary64)}
    (read : weeklyCounts weeks = .ok counts) :
    (weeklyBreakdown name weeks).plan words = .ok (planOf .weeklyBreakdown (.ofWeeks name counts)) := by
  rw [plan, read]
  rfl

theorem plan_weeklyBreakdown_of_error {weeks : HostValue} {fault : ChartFault}
    (read : weeklyCounts weeks = .error fault) :
    (weeklyBreakdown name weeks).plan words = .error fault := by
  rw [plan, read]
  rfl

/-- What comes of the object that a sequence of settings built, whose keys are in order. -/
structure Breakdown (settings : List (String × HostValue)) (keys : List String) : Prop where
  draws : (∀ key ∈ keys, Counted settings key) → ∃ chart, ShowsWeeks settings chart name keys ∧
    (weeklyBreakdown name (ofSettings settings)).DrawsOne words target clock chart
  throws : (∃ key ∈ keys, ¬Counted settings key) → ∃ key, FirstUncountedKey settings keys key ∧
    (weeklyBreakdown name (ofSettings settings)).Fails words target clock
      (.dataParse ("count for week " ++ key ++ " is not a number"))

theorem breakdown_ofSettings (settings : List (String × HostValue)) :
    Breakdown name words target clock settings ((ordered (membersOf settings)).map Prod.fst) := by
  rcases countEntries_cases (ordered (membersOf settings)) with
    ⟨counts, read, entries⟩ | ⟨before, week, value, first, read⟩
  · have planned := plan_weeklyBreakdown name words ((weeklyCounts_ofSettings settings).trans read)
    constructor
    · intro counted
      refine ⟨_, showsWeeks_chart settings entries, ?_⟩
      exact drawsOne_of_planOf words target clock planned (Report.wellFormed_ofWeeks name counts)
    · rintro ⟨key, member, uncounted⟩
      exact absurd (counted_of_entries settings entries key member) uncounted
  · have firstKey := first.key settings
    have planned :=
      plan_weeklyBreakdown_of_error name words ((weeklyCounts_ofSettings settings).trans read)
    constructor
    · intro counted
      obtain ⟨⟨earlier, after, splits, -⟩, uncounted⟩ := firstKey
      refine absurd (counted week ?_) uncounted
      rw [splits]
      exact List.mem_append_right _ (List.mem_cons_self ..)
    · intro someUncounted
      exact ⟨week, firstKey, fails_of_plan words target clock planned⟩

theorem weeklyCounts_of_not_object {weeks : HostValue} (noObject : ∀ members, weeks ≠ .object members)
    (noArray : ∀ items, weeks ≠ .array items) :
    weeklyCounts weeks = .error (.invalidFormat "an object of weekly counts" weeks.shown) := by
  cases weeks with
  | object members => exact absurd rfl (noObject members)
  | array items => exact absurd rfl (noArray items)
  | undefined | null | bool value | number value | string value => rfl

/--
The breakdown of a class by week, on any target: of the object that any sequence of settings builds,
each key is drawn once, in its place among the keys and with the number it was set to last, or the first
key that was last set to no number is thrown; what is no object is thrown as such, and it does not matter
where in the sequence the array indexes were set.
-/
theorem weeklyBreakdown_draws_each_week_once :
    (∀ settings, ∃ keys, KeysInOrder settings keys ∧ Breakdown name words target clock settings keys) ∧
      (∀ weeks, (∀ members, weeks ≠ .object members) → (∀ items, weeks ≠ .array items) →
        (weeklyBreakdown name weeks).Fails words target clock
          (.invalidFormat "an object of weekly counts" weeks.shown)) ∧
      ∀ settings others, Shuffled settings others → ∀ refusal,
        (weeklyBreakdown name (ofSettings settings)).run words target refusal clock =
          (weeklyBreakdown name (ofSettings others)).run words target refusal clock := by
  refine ⟨?_, ?_, ?_⟩
  · intro settings
    exact ⟨_, keysInOrder_ordered settings, breakdown_ofSettings name words target clock settings⟩
  · intro weeks noObject noArray
    apply fails_of_plan
    exact plan_weeklyBreakdown_of_error name words (weeklyCounts_of_not_object noObject noArray)
  · intro settings others shuffled refusal
    have counts : weeklyCounts (ofSettings settings) = weeklyCounts (ofSettings others) := by
      rw [weeklyCounts_ofSettings, weeklyCounts_ofSettings, shuffled.ordered_eq]
    have plans : (weeklyBreakdown name (ofSettings settings)).plan words =
        (weeklyBreakdown name (ofSettings others)).plan words := by
      rw [plan, plan, counts]
    rw [run, run, plans]
    rfl

end DrawingCall

end Page

end ReportCharts
