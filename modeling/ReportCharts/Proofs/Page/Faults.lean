import ReportCharts.Proofs.Page.Ending
import ReportCharts.Proofs.Rendering.Modes
import ReportCharts.Proofs.Schema.ChartFault

/-!
How large the sizes in the faults of drawing calls can get.

Only the check of a report counts anything, and only the general call can fail for it. What it counts
are the items of arrays that the page handed over, and their number is bounded by the language.
-/

namespace ReportCharts

open Json

def FailsWith {ε α : Type} (passes : ε → Prop) (computation : Except ε α) : Prop :=
  ∀ fault, computation = .error fault → passes fault

namespace FailsWith

variable {ε δ α β : Type} {passes : ε → Prop}

theorem ok (value : α) : FailsWith passes (.ok value : Except ε α) := by
  intro fault failed
  cases failed

theorem error {fault : ε} (pass : passes fault) :
    FailsWith passes (.error fault : Except ε α) := by
  intro other failed
  cases failed
  exact pass

theorem bind {first : Except ε α} {next : α → Except ε β} (passFirst : FailsWith passes first)
    (passNext : ∀ value, FailsWith passes (next value)) : FailsWith passes (first >>= next) := by
  cases first with
  | error fault => exact error (passFirst fault rfl)
  | ok value => exact passNext value

theorem mapError {change : ε → δ} {passesAfter : δ → Prop} {computation : Except ε α}
    (pass : FailsWith (fun fault => passesAfter (change fault)) computation) :
    FailsWith passesAfter (computation.mapError change) := by
  cases computation with
  | error fault => exact error (pass fault rfl)
  | ok value => exact ok value

end FailsWith

/-- An override text that is not read is unreadable, whatever its format. -/
theorem Overrides.failsWith_ofText (words : Wording) (format : TextFormat) (text : String) :
    FailsWith (fun fault => ∃ why, fault = .unreadable why) (ofText words format text) := by
  unfold ofText
  cases format with
  | json =>
      apply FailsWith.mapError
      intro fault _
      exact ⟨_, rfl⟩
  | yaml =>
      cases ofYaml? text with
      | none => exact .error ⟨_, rfl⟩
      | some overrides => exact .ok overrides
  | toml =>
      cases ofToml? text with
      | none => exact .error ⟨_, rfl⟩
      | some overrides => exact .ok overrides

theorem Overrides.failsWith_ofNamedText (words : Wording) (format : Option String) (text : String) :
    FailsWith (fun fault => ∃ why, fault = .unreadable why) (ofNamedText words format text) := by
  cases format with
  | none => exact failsWith_ofText words .json text
  | some name =>
      refine .bind ?_ fun format => failsWith_ofText words format text
      unfold TextFormat.ofName
      cases TextFormat.ofName? name with
      | none => exact .error ⟨_, rfl⟩
      | some format => exact .ok format

/-- What is said of a text counts nothing. -/
theorem Overrides.sized_of_ofNamedText {words : Wording} {format : Option String} {text : String}
    {fault : SettingsFault} (failed : ofNamedText words format text = .error fault) :
    fault.toChartFault.Sized := by
  obtain ⟨why, rfl⟩ := failsWith_ofNamedText words format text fault failed
  trivial

theorem Options.sized_of_check {options : Options} {fault : SettingsFault}
    (checked : options.check = .error fault) : fault.toChartFault.Sized := by
  obtain ⟨why, rfl⟩ := exists_unusable_of_check checked
  trivial

theorem Preset.failsWith_resolve (name : String) (overrides : Option Overrides) :
    FailsWith (fun fault => fault.toChartFault.Sized) (resolve name overrides) := by
  unfold resolve
  cases find? name with
  | none => exact .error trivial
  | some base =>
      by_cases untitled : (base.layered overrides).options.lacksTitle = true
      · simp only [untitled, if_true]
        exact .error trivial
      · simp only [untitled]
        refine .bind ?_ fun _ => .ok _
        intro fault checked
        exact Options.sized_of_check checked

/-- A weekly table that is read permissively fails for its rows alone. -/
theorem Report.failsWith_ofWeeklyTable (table : List (List Cell)) :
    FailsWith ChartFault.Sized (ofWeeklyTable table .permissive) := by
  match table with
  | [] => exact .ok _
  | [header] => exact .error trivial
  | header :: [] :: others => exact .error trivial
  | header :: (category :: counts) :: others =>
      obtain ⟨series, read⟩ := weekSeriesFrom_permissive (header.drop 1) 0 counts
      rw [ofWeeklyTable_counts, read]
      exact .ok _

namespace Report

def Sized (report : Report) : Prop :=
  report.labels.length < UInt64.size ∧
    ∀ series ∈ report.series, series.values.length < UInt64.size

theorem failsWith_screen {report : Report} {mode : Strictness}
    (sized : report.Sized ∨ mode = .permissive) :
    FailsWith ChartFault.Sized (report.screen mode) := by
  rcases report.screen_cases with ⟨-, passes⟩ | ⟨-, series, member, strict, permissive⟩
  · rw [passes mode]
    exact .ok []
  · cases mode with
    | permissive =>
        rw [permissive]
        exact .ok _
    | strict =>
        rw [strict]
        rcases sized with sized | permissive
        · exact .error ⟨sized.1, sized.2 series member⟩
        · cases permissive

end Report

namespace Page

namespace HostValue

/-- Arrays at any depth have fewer items than the language's limit on their lengths. -/
inductive Sized : HostValue → Prop
  | undefined : Sized .undefined
  | null : Sized .null
  | bool (value : Bool) : Sized (.bool value)
  | number (value : Binary64) : Sized (.number value)
  | string (value : String) : Sized (.string value)
  | array {items : List HostValue} (short : items.length < UInt32.size)
      (each : ∀ item ∈ items, Sized item) : Sized (.array items)
  | object {members : List (String × HostValue)} (each : ∀ member ∈ members, Sized member.2) :
      Sized (.object members)

theorem Sized.key? {value found : HostValue} {key : String} (sized : value.Sized)
    (looked : value.key? key = some found) : found.Sized := by
  cases sized with
  | @object members each =>
      obtain ⟨member, first, rfl⟩ := Option.map_eq_some_iff.mp looked
      exact each member (List.mem_of_find?_eq_some first)
  | _ => cases looked

theorem mapM_eq_some {α : Type} {read : HostValue → Option α} {items : List HostValue}
    {results : List α} (ran : items.mapM read = some results) :
    results.length = items.length ∧ ∀ result ∈ results, ∃ item ∈ items, read item = some result := by
  induction items generalizing results with
  | nil =>
      cases ran
      exact ⟨rfl, by simp⟩
  | cons item rest inductionHypothesis =>
      rw [List.mapM_cons] at ran
      obtain ⟨first, readFirst, ran⟩ := Option.bind_eq_some_iff.mp ran
      obtain ⟨others, readOthers, ran⟩ := Option.bind_eq_some_iff.mp ran
      cases ran
      obtain ⟨same, each⟩ := inductionHypothesis readOthers
      refine ⟨by simp [same], ?_⟩
      intro result member
      rcases List.mem_cons.mp member with rfl | member
      · exact ⟨item, by simp, readFirst⟩
      · obtain ⟨source, sourceMember, readSource⟩ := each result member
        exact ⟨source, by simp [sourceMember], readSource⟩

theorem Sized.list? {α : Type} {read : HostValue → Option α} {value : HostValue}
    {results : List α} (sized : value.Sized) (ran : HostValue.list? read value = some results) :
    results.length < UInt64.size ∧
      ∀ result ∈ results, ∃ item : HostValue, item.Sized ∧ read item = some result := by
  cases sized with
  | @array items short each =>
      obtain ⟨same, sources⟩ := mapM_eq_some ran
      have limit : UInt32.size < UInt64.size := by decide
      refine ⟨by omega, ?_⟩
      intro result member
      obtain ⟨item, itemMember, readItem⟩ := sources result member
      exact ⟨item, each item itemMember, readItem⟩
  | _ => cases ran

theorem Sized.series? {value : HostValue} {series : Series} (sized : value.Sized)
    (ran : value.series? = some series) : series.values.length < UInt64.size := by
  obtain ⟨label, -, ran⟩ := Option.bind_eq_some_iff.mp ran
  obtain ⟨text, -, ran⟩ := Option.bind_eq_some_iff.mp ran
  obtain ⟨values, looked, ran⟩ := Option.bind_eq_some_iff.mp ran
  obtain ⟨numbers, readNumbers, ran⟩ := Option.bind_eq_some_iff.mp ran
  obtain ⟨color, -, ran⟩ := Option.bind_eq_some_iff.mp ran
  cases ran
  exact ((sized.key? looked).list? readNumbers).1

theorem Sized.report? {value : HostValue} {report : Report} (sized : value.Sized)
    (ran : value.report? = some report) : report.Sized := by
  obtain ⟨labels, lookedLabels, ran⟩ := Option.bind_eq_some_iff.mp ran
  obtain ⟨texts, readLabels, ran⟩ := Option.bind_eq_some_iff.mp ran
  obtain ⟨items, lookedItems, ran⟩ := Option.bind_eq_some_iff.mp ran
  obtain ⟨series, readSeries, ran⟩ := Option.bind_eq_some_iff.mp ran
  cases ran
  constructor
  · exact ((sized.key? lookedLabels).list? readLabels).1
  · intro result member
    obtain ⟨item, sizedItem, readItem⟩ := ((sized.key? lookedItems).list? readSeries).2 result member
    exact sizedItem.series? readItem

end HostValue

variable {words : Wording}

theorem failsWith_wanting {α : Type} (wanted : String) (read : HostValue → Option α)
    (value : HostValue) : FailsWith ChartFault.Sized (wanting words wanted read value) := by
  unfold wanting
  cases read value with
  | none => exact .error trivial
  | some result => exact .ok result

theorem failsWith_countEntries (entries : List (String × HostValue)) :
    FailsWith ChartFault.Sized (countEntries entries) := by
  induction entries with
  | nil => exact .ok []
  | cons entry rest inductionHypothesis =>
      unfold countEntries
      cases entry.2.number? with
      | none => exact .error trivial
      | some count => exact .bind inductionHypothesis fun counts => .ok _

theorem failsWith_weeklyCounts (weeks : HostValue) :
    FailsWith ChartFault.Sized (weeklyCounts weeks) := by
  unfold weeklyCounts
  cases weeks.entries? with
  | none => exact .error trivial
  | some entries => exact failsWith_countEntries entries

namespace DrawingCall

def arguments : DrawingCall → List HostValue
  | .builds labels values => [labels, values]
  | .crashStats labels values => [labels, values]
  | .crashReports labels values => [labels, values]
  | .mceClass labels values => [labels, values]
  | .mceReports labels values => [labels, values]
  | .machinesPerBuild _ labels internal external => [labels, internal, external]
  | .stats _ labels values => [labels, values]
  | .thermal table => [table]
  | .weeklyBreakdown _ weeks => [weeks]
  | .preset _ report _ _ _ => [report]

/-- The arguments are values that the page's language has. -/
def Sized (call : DrawingCall) : Prop := ∀ argument ∈ call.arguments, argument.Sized

theorem failsWith_singlePlan (chart : DashboardChart) (labels values : HostValue) :
    FailsWith ChartFault.Sized (singlePlan words chart labels values) :=
  .bind (failsWith_wanting _ _ _) fun _ => .bind (failsWith_wanting _ _ _) fun _ => .ok _

theorem failsWith_plan (call : DrawingCall) : FailsWith ChartFault.Sized (call.plan words) := by
  cases call with
  | builds labels values | crashStats labels values | crashReports labels values
  | mceClass labels values | mceReports labels values | stats title labels values =>
      exact failsWith_singlePlan _ labels values
  | machinesPerBuild title labels internal external =>
      apply FailsWith.bind (failsWith_wanting _ _ _)
      intro texts
      apply FailsWith.bind (failsWith_wanting _ _ _)
      intro inside
      exact .bind (failsWith_wanting _ _ _) fun outside => .ok _
  | thermal table =>
      apply FailsWith.bind (failsWith_wanting _ _ _)
      intro rows
      exact .bind (Report.failsWith_ofWeeklyTable rows) fun report => .ok _
  | weeklyBreakdown name weeks =>
      exact .bind (failsWith_weeklyCounts weeks) fun counts => .ok _
  | preset name report text format strict =>
      apply FailsWith.bind (failsWith_wanting _ _ _)
      intro report
      apply FailsWith.bind
      · apply FailsWith.mapError
        cases text with
        | none => exact .ok none
        | some text => exact .bind (fun _ => Overrides.sized_of_ofNamedText) fun _ => .ok _
      · intro overrides
        exact .bind (.mapError (Preset.failsWith_resolve name overrides)) fun preset => .ok _

/-- Only the general call may be strict, and then its report comes from an argument. -/
theorem sized_of_plan {call : DrawingCall} {plan : Plan} (sized : call.Sized)
    (planned : call.plan words = .ok plan) : plan.report.Sized ∨ plan.mode = .permissive := by
  rcases plan_cases planned with
    ⟨chart, report, rfl⟩ | ⟨name, value, text, format, strict, overrides, rfl, read, -⟩
  · exact .inr rfl
  · exact .inl ((sized value (by simp [arguments])).report? read)

variable {words : Wording} {call : DrawingCall} {target : HostValue} {refusal : Option String}
  {logs : List Log.Line} {handed : List Handed}

theorem Ends.sized {fault : ChartFault} (sized : call.Sized)
    (ends : call.Ends words target refusal (some fault) logs handed) : fault.Sized := by
  generalize outcome : some fault = ended at ends
  cases ends with
  | unread planned =>
      cases outcome
      exact failsWith_plan call _ planned
  | unusable planned checked =>
      cases outcome
      exact Options.sized_of_check checked
  | refused planned checked screened =>
      cases outcome
      exact Report.failsWith_screen (sized_of_plan sized planned) _ screened
  | admitted planned checked screened =>
      obtain ⟨text, -, rfl⟩ := Option.map_eq_some_iff.mp outcome.symm
      trivial

end DrawingCall

end Page

end ReportCharts
