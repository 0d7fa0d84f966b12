import ReportCharts.Proofs.Overrides.Layering
import ReportCharts.Proofs.Page.Boundary

/-!
The stages that drawing a preset by name goes through.

Each stage has a condition of its own, told of the arguments, the override and the registered preset
rather than of the layered options. A chart is constructed when all of them hold; otherwise the first
that does not hold decides what is thrown, whatever the later ones are about.
-/

namespace ReportCharts

namespace Page

structure Request where
  name : String
  report : HostValue
  text : Option String
  format : Option String
  strict : Bool

namespace Request

def call (request : Request) : DrawingCall :=
  .preset request.name request.report request.text request.format request.strict

def mode (request : Request) : Strictness := if request.strict then .strict else .permissive

/-- The format of an override text, if the request has one. -/
inductive InFormat (request : Request) : TextFormat → Prop
  | unnamed (unnamed : request.format = none) : InFormat request .json
  | named {name : String} {format : TextFormat} (named : request.format = some name)
      (names : TextFormat.Names name format) : InFormat request format

/-- The partial options that a request layers over its preset. -/
inductive Layers (request : Request) (words : Wording) : Overrides → Prop
  | absent (textless : request.text = none) : Layers request words .unset
  | read {text : String} {format : TextFormat} {overrides : Overrides}
      (given : request.text = some text) (chosen : request.InFormat format)
      (parsed : Overrides.ofText words.texts format text = .ok overrides) :
      Layers request words overrides

/-- A report, partial options and a registered preset: what a request is about. -/
structure Reading (request : Request) (words : Wording) (report : Report) (overrides : Overrides)
    (base : Preset) : Prop where
  report : request.report.report? = some report
  layers : request.Layers words overrides
  found : Preset.find? request.name = some base

end Request

inductive Stage where
  | report
  | format
  | text
  | preset
  | title
  | bars
  | heading
  | lengths
  | library

def Stage.index : Stage → Nat
  | .report => 0
  | .format => 1
  | .text => 2
  | .preset => 3
  | .title => 4
  | .bars => 5
  | .heading => 6
  | .lengths => 7
  | .library => 8

theorem Stage.index_injective : Function.Injective index := by
  intro first second same
  cases first <;> cases second <;> first | rfl | cases same

namespace Request

variable (request : Request) (words : Wording) (refusal : Option String)

/-- The condition of a stage, where the charting library throws a text or none. -/
def Passes : Stage → Prop
  | .report => ∃ report, request.report.report? = some report
  | .format => request.text = none ∨ ∃ format, request.InFormat format
  | .text => ∃ overrides, request.Layers words overrides
  | .preset => request.name ∈ Preset.names
  | .title => ∀ overrides base, request.Layers words overrides → Preset.find? request.name = some base →
      overrides.Titles base.options
  | .bars => ∀ overrides, request.Layers words overrides → overrides.barThickness ≠ some 0
  | .heading => ∀ overrides, request.Layers words overrides → overrides.titleFontSize ≠ some 0
  | .lengths => request.strict = true →
      ∀ report, request.report.report? = some report → report.WellFormed
  | .library => refusal = none

structure FailsFirst (stage : Stage) : Prop where
  fails : ¬request.Passes words refusal stage
  earlier : ∀ other : Stage, other.index < stage.index → request.Passes words refusal other

/-- What a request is told when a stage fails. -/
inductive Blames : Stage → ChartFault → Prop
  | report : Blames .report
      (.invalidFormat "a report object" (words.value "a report object" request.report))
  | format {name : String} (named : request.format = some name) :
      Blames .format (.dataParse ("Unsupported override format: " ++ name))
  | text {text : String} {format : TextFormat} {why : Unreadable}
      (given : request.text = some text) (chosen : request.InFormat format)
      (unreadable : Overrides.ofText words.texts format text = .error (.unreadable why)) :
      Blames .text (.dataParse why.message)
  | preset : Blames .preset (.unknownPreset request.name)
  | title : Blames .title
      (.invalidConfig ("Preset " ++ request.name ++ " shows a title but none was given") none)
  | bars : Blames .bars (.invalidConfig "Invalid bar thickness: 0. Must be at least 1" none)
  | heading : Blames .heading
      (.invalidConfig "Invalid title font size: 0. Must be at least 1" none)
  /-- The first series with fewer or more values than there are labels. -/
  | lengths {report : Report} {before after : List Series} {series : Series}
      (read : request.report.report? = some report)
      (split : report.series = before ++ series :: after)
      (matching : ∀ earlier ∈ before, earlier.values.length = report.labels.length)
      (mismatching : series.values.length ≠ report.labels.length) :
      Blames .lengths
        (.malformedReport series.label report.labels.length series.values.length)
  | library {text : String} (thrown : refusal = some text) :
      Blames .library
        (.interop ("Chart construction failed: " ++ (HostValue.string text).shown))

variable {request words refusal}

theorem FailsFirst.unique {first second : Stage} (here : request.FailsFirst words refusal first)
    (there : request.FailsFirst words refusal second) : first = second := by
  rcases Nat.lt_trichotomy first.index second.index with sooner | same | later
  · exact absurd (there.earlier first sooner) here.fails
  · exact Stage.index_injective same
  · exact absurd (here.earlier second later) there.fails

theorem exists_failsFirst {stage : Stage} (fails : ¬request.Passes words refusal stage) :
    ∃ first, request.FailsFirst words refusal first := by
  obtain ⟨first, failed, least⟩ :=
    (measure Stage.index).wf.has_min { stage | ¬request.Passes words refusal stage } ⟨stage, fails⟩
  refine ⟨first, failed, ?_⟩
  intro other sooner
  by_contra failedToo
  exact least other failedToo sooner

theorem InFormat.ofNamedText {format : TextFormat} (chosen : request.InFormat format)
    (text : String) :
    Overrides.ofNamedText words.texts request.format text =
      Overrides.ofText words.texts format text := by
  cases chosen with
  | unnamed unnamed => rw [unnamed, Overrides.ofNamedText]
  | named named names =>
      simp only [named, Overrides.ofNamedText, TextFormat.ofName,
        TextFormat.ofName?_eq_some_iff.mpr names]
      rfl

theorem mapM_some (text : String) :
    (some text).mapM (Overrides.ofNamedText words.texts request.format) =
      (Overrides.ofNamedText words.texts request.format text).map some := by
  change some <$> Overrides.ofNamedText words.texts request.format text = _
  rfl

/-- What is read of the override text is layered over a preset as the partial options of the request. -/
theorem Layers.exists_mapM {overrides : Overrides} (layers : request.Layers words overrides) :
    ∃ given, request.text.mapM (Overrides.ofNamedText words.texts request.format) = .ok given ∧
      ∀ base : Preset, base.layered given = base.withOverrides overrides := by
  cases layers with
  | absent textless =>
      refine ⟨none, ?_, fun _ => rfl⟩
      rw [textless]
      rfl
  | read given chosen parsed =>
      refine ⟨some overrides, ?_, fun _ => rfl⟩
      rw [given, mapM_some, chosen.ofNamedText, parsed]
      rfl

variable {report : Report} {overrides : Overrides} {base : Preset}

theorem plan_of_unread (unread : request.report.report? = none) :
    request.call.plan words =
      .error (.invalidFormat "a report object" (words.value "a report object" request.report)) := by
  simp only [call, DrawingCall.plan, unread, wanting]
  rfl

theorem plan_of_illegible {text : String} {fault : SettingsFault}
    (readReport : request.report.report? = some report) (given : request.text = some text)
    (failed : Overrides.ofNamedText words.texts request.format text = .error fault) :
    request.call.plan words = .error fault.toChartFault := by
  simp only [call, DrawingCall.plan, wanting_eq_ok_iff.mpr readReport, given, mapM_some, failed]
  rfl

theorem plan_of_layers (readReport : request.report.report? = some report)
    {given : Option Overrides}
    (read : request.text.mapM (Overrides.ofNamedText words.texts request.format) = .ok given) :
    request.call.plan words =
      ((Preset.resolve request.name given).mapError SettingsFault.toChartFault).map
        fun preset => ⟨preset, report, request.mode⟩ := by
  simp only [call, DrawingCall.plan, wanting_eq_ok_iff.mpr readReport, read]
  rfl

theorem plan_of_resolve_error (readReport : request.report.report? = some report)
    (layers : request.Layers words overrides) {fault : SettingsFault}
    (failed : ∀ given, (∀ base : Preset, base.layered given = base.withOverrides overrides) →
      Preset.resolve request.name given = .error fault) :
    request.call.plan words = .error fault.toChartFault := by
  obtain ⟨given, read, same⟩ := layers.exists_mapM
  rw [plan_of_layers readReport read, failed given same]
  rfl

theorem plan_of_titled (readReport : request.report.report? = some report)
    (layers : request.Layers words overrides) (found : Preset.find? request.name = some base)
    (titled : overrides.Titles base.options)
    (checked : (base.withOverrides overrides).options.check = .ok ()) :
    request.call.plan words = .ok ⟨base.withOverrides overrides, report, request.mode⟩ := by
  obtain ⟨given, read, same⟩ := layers.exists_mapM
  have resolved : Preset.resolve request.name given = .ok (base.withOverrides overrides) :=
    Preset.resolve_eq_ok_iff.mpr
      ⟨base, found, same base, (Overrides.lacksTitle_applyTo_iff _ _).mpr titled, checked⟩
  rw [plan_of_layers readReport read, resolved]
  rfl

theorem check_eq_ok_of_passes (layers : request.Layers words overrides)
    (found : Preset.find? request.name = some base) (bars : request.Passes words refusal .bars)
    (heading : request.Passes words refusal .heading) :
    (base.withOverrides overrides).options.check = .ok () := by
  obtain ⟨thick, large⟩ := Preset.sizes_of_find? found
  refine Options.check_eq_ok_iff.mpr ⟨?_, ?_⟩
  · intro zero
    exact bars overrides layers ((overrides.barThickness_applyTo_iff thick).mp zero)
  · intro zero
    exact heading overrides layers ((overrides.titleFontSize_applyTo_iff large).mp zero)

theorem exists_plan_of_format (readReport : request.report.report? = some report)
    (fails : ¬request.Passes words refusal .format) :
    ∃ fault, request.Blames words refusal .format fault ∧ request.call.plan words = .error fault := by
  cases given : request.text with
  | none => exact absurd (.inl given) fails
  | some text =>
      cases named : request.format with
      | none => exact absurd (.inr ⟨.json, .unnamed named⟩) fails
      | some name =>
          have unknown : TextFormat.ofName? name = none := by
            apply Option.eq_none_iff_forall_ne_some.mpr
            intro format known
            exact fails (.inr ⟨format, .named named (TextFormat.ofName?_eq_some_iff.mp known)⟩)
          have failed : Overrides.ofNamedText words.texts request.format text =
              .error (.unreadable (.unknownFormat name)) := by
            simp only [named, Overrides.ofNamedText, TextFormat.ofName, unknown]
            rfl
          exact ⟨_, .format named, plan_of_illegible readReport given failed⟩

theorem exists_plan_of_text (readReport : request.report.report? = some report)
    (format : request.Passes words refusal .format) (fails : ¬request.Passes words refusal .text) :
    ∃ fault, request.Blames words refusal .text fault ∧ request.call.plan words = .error fault := by
  cases given : request.text with
  | none => exact absurd ⟨_, .absent given⟩ fails
  | some text =>
      rcases format with textless | ⟨format, chosen⟩
      · rw [textless] at given
        cases given
      · cases parsed : Overrides.ofText words.texts format text with
        | ok overrides => exact absurd ⟨overrides, .read given chosen parsed⟩ fails
        | error fault =>
            obtain ⟨why, rfl⟩ := Overrides.failsWith_ofText words.texts format text fault parsed
            have failed := (chosen.ofNamedText text).trans parsed
            exact ⟨_, .text given chosen parsed, plan_of_illegible readReport given failed⟩

theorem plan_of_unknown (readReport : request.report.report? = some report)
    (layers : request.Layers words overrides) (unknown : request.name ∉ Preset.names) :
    request.call.plan words = .error (.unknownPreset request.name) :=
  plan_of_resolve_error readReport layers fun _ _ => Preset.resolve_of_unknown unknown

theorem plan_of_untitled (readReport : request.report.report? = some report)
    (layers : request.Layers words overrides) (found : Preset.find? request.name = some base)
    (untitled : ¬overrides.Titles base.options) :
    request.call.plan words =
      .error (SettingsFault.unusable (.untitled request.name)).toChartFault := by
  apply plan_of_resolve_error readReport layers
  intro given same
  apply Preset.resolve_of_untitled found
  rw [← Overrides.lacksTitle_applyTo_iff] at untitled
  rw [same]
  exact Bool.eq_true_of_not_eq_false untitled

theorem plan_of_unusable (readReport : request.report.report? = some report)
    (layers : request.Layers words overrides) (found : Preset.find? request.name = some base)
    (titled : overrides.Titles base.options) {fault : SettingsFault}
    (checked : (base.withOverrides overrides).options.check = .error fault) :
    request.call.plan words = .error fault.toChartFault := by
  apply plan_of_resolve_error readReport layers
  intro given same
  apply Preset.resolve_of_unusable found
  · rw [same]
    exact (Overrides.lacksTitle_applyTo_iff _ _).mpr titled
  · rw [same]
    exact checked

/-- A stage that looks at the arguments and the preset fails before there is a plan. -/
theorem FailsFirst.exists_plan {stage : Stage} (first : request.FailsFirst words refusal stage)
    (early : stage.index < Stage.lengths.index) :
    ∃ fault, request.Blames words refusal stage fault ∧ request.call.plan words = .error fault := by
  have before (other : Stage) (sooner : other.index < stage.index) :
      request.Passes words refusal other := first.earlier other sooner
  have fails := first.fails
  cases stage with
  | report =>
      have unread : request.report.report? = none :=
        Option.eq_none_iff_forall_ne_some.mpr fun report read => fails ⟨report, read⟩
      exact ⟨_, .report, plan_of_unread unread⟩
  | format =>
      obtain ⟨report, readReport⟩ := before .report (by decide)
      exact exists_plan_of_format readReport fails
  | text =>
      obtain ⟨report, readReport⟩ := before .report (by decide)
      exact exists_plan_of_text readReport (before .format (by decide)) fails
  | preset =>
      obtain ⟨report, readReport⟩ := before .report (by decide)
      obtain ⟨overrides, layers⟩ := before .text (by decide)
      exact ⟨_, .preset, plan_of_unknown readReport layers fails⟩
  | title =>
      obtain ⟨report, readReport⟩ := before .report (by decide)
      simp only [Passes, not_forall] at fails
      obtain ⟨overrides, base, layers, found, untitled⟩ := fails
      exact ⟨_, .title, plan_of_untitled readReport layers found untitled⟩
  | bars =>
      obtain ⟨report, readReport⟩ := before .report (by decide)
      obtain ⟨base, found⟩ := Preset.exists_find?_of_mem_names (before .preset (by decide))
      simp only [Passes, not_forall, not_not] at fails
      -- the zero is the override's own, for the preset below has none
      obtain ⟨overrides, layers, zero⟩ := fails
      have titled := before .title (by decide) overrides base layers found
      obtain ⟨thick, -⟩ := Preset.sizes_of_find? found
      have checked : (base.withOverrides overrides).options.check = _ :=
        Options.check_of_zero_bars ((overrides.barThickness_applyTo_iff thick).mpr zero)
      exact ⟨_, .bars, plan_of_unusable readReport layers found titled checked⟩
  | heading =>
      obtain ⟨report, readReport⟩ := before .report (by decide)
      obtain ⟨base, found⟩ := Preset.exists_find?_of_mem_names (before .preset (by decide))
      simp only [Passes, not_forall, not_not] at fails
      obtain ⟨overrides, layers, zero⟩ := fails
      have titled := before .title (by decide) overrides base layers found
      have bars := before .bars (by decide) overrides layers
      obtain ⟨thick, large⟩ := Preset.sizes_of_find? found
      have checked : (base.withOverrides overrides).options.check = _ :=
        Options.check_of_zero_heading
          (fun none => bars ((overrides.barThickness_applyTo_iff thick).mp none))
          ((overrides.titleFontSize_applyTo_iff large).mpr zero)
      exact ⟨_, .heading, plan_of_unusable readReport layers found titled checked⟩
  | lengths | library => exact absurd early (by decide)

theorem exists_reading
    (passes : ∀ other : Stage, other.index < Stage.lengths.index → request.Passes words refusal other) :
    ∃ report overrides base, request.Reading words report overrides base ∧
      request.call.plan words = .ok ⟨base.withOverrides overrides, report, request.mode⟩ ∧
      (base.withOverrides overrides).options.check = .ok () := by
  obtain ⟨report, readReport⟩ := passes .report (by decide)
  obtain ⟨overrides, layers⟩ := passes .text (by decide)
  obtain ⟨base, found⟩ := Preset.exists_find?_of_mem_names (passes .preset (by decide))
  have titled := passes .title (by decide) overrides base layers found
  have checked := check_eq_ok_of_passes layers found (passes .bars (by decide))
    (passes .heading (by decide))
  exact ⟨report, overrides, base, ⟨readReport, layers, found⟩,
    plan_of_titled readReport layers found titled checked, checked⟩

theorem strict_of_mode (strict : request.mode = .strict) : request.strict = true := by
  unfold mode at strict
  by_cases asked : request.strict = true
  · exact asked
  · rw [if_neg asked] at strict
    cases strict

/-- The stage that fails first decides how the call ends, and only the last leaves a chart behind. -/
theorem FailsFirst.exists_ends {stage : Stage} (first : request.FailsFirst words refusal stage)
    (target : HostValue) :
    ∃ fault logs handed, request.Blames words refusal stage fault ∧
      request.call.Ends words target refusal (some fault) logs handed ∧
      (stage ≠ .library → handed = []) := by
  -- up to the lengths there is no plan yet; from there on it is the plan that fails
  by_cases early : stage.index < Stage.lengths.index
  · obtain ⟨fault, blamed, planned⟩ := first.exists_plan early
    exact ⟨fault, _, _, blamed, .unread planned, fun _ => rfl⟩
  · have passes (other : Stage) (sooner : other.index < Stage.lengths.index) :
        request.Passes words refusal other :=
      first.earlier other (Nat.lt_of_lt_of_le sooner (Nat.le_of_not_lt early))
    obtain ⟨report, overrides, base, reading, planned, checked⟩ := exists_reading passes
    have fails := first.fails
    cases stage with
    | lengths =>
        simp only [Passes, not_forall] at fails
        obtain ⟨strict, other, readOther, malformed⟩ := fails
        obtain rfl := Option.some.inj (reading.report.symm.trans readOther)
        obtain ⟨before, series, after, split, matching, mismatching, screened⟩ :=
          Report.exists_first_mismatch malformed
        have mode : request.mode = .strict := if_pos strict
        rw [← mode] at screened
        exact ⟨_, _, _, .lengths readOther split matching mismatching,
          .refused planned checked screened, fun _ => rfl⟩
    | library =>
        obtain ⟨text, rfl⟩ := Option.ne_none_iff_exists'.mp fails
        obtain ⟨warnings, screened⟩ := Report.exists_warnings fun strict =>
          first.earlier .lengths (by decide) (strict_of_mode strict) report reading.report
        exact ⟨_, _, _, .library rfl, .admitted planned checked screened,
          fun other => absurd rfl other⟩
    | report | format | text | preset | title | bars | heading => exact absurd (by decide) early

theorem exists_ends_of_passes (passes : ∀ stage, request.Passes words refusal stage)
    (target : HostValue) :
    ∃ report overrides base logs, request.Reading words report overrides base ∧
      request.call.Ends words target refusal none logs
        [⟨target, (base.withOverrides overrides).chart report⟩] := by
  obtain ⟨report, overrides, base, reading, planned, checked⟩ :=
    exists_reading fun other _ => passes other
  obtain ⟨warnings, screened⟩ := Report.exists_warnings fun strict =>
    passes .lengths (strict_of_mode strict) report reading.report
  obtain rfl : refusal = none := passes .library
  exact ⟨report, overrides, base, _, reading, .admitted planned checked screened⟩

end Request

theorem DrawingCall.Ends.outcome {words : Wording} {call : DrawingCall} {target : HostValue}
    {state : State} {fault : Option ChartFault} {logs : List Log.Line} {handed : List Handed}
    (ends : call.Ends words target state.refusal fault logs handed) :
    (state.run words (.draw target call)).outcome = call.told state.clock fault := by
  have ran := ends.run_eq_close state.clock
  cases fault with
  | none => simp only [State.run, ran, close, Except.map, told]
  | some fault => simp only [State.run, ran, close, fail, Except.map, told]

theorem DrawingCall.Ends.handed_run {words : Wording} {call : DrawingCall} {target : HostValue}
    {state : State} {fault : Option ChartFault} {logs : List Log.Line} {handed : List Handed}
    (ends : call.Ends words target state.refusal fault logs handed) :
    (call.run words target state.refusal state.clock).handed = handed := by
  rw [ends.run_eq_close, handed_close]

/-- What a call constructs: the charts that it hands over, unless the charting library throws. -/
def State.constructed (state : State) (words : Wording) (target : HostValue) (call : DrawingCall) :
    List Handed :=
  match state.refusal with
  | none => (call.run words target state.refusal state.clock).handed
  | some _ => []

namespace Request

/-- The request comes to the chart of the preset that it layers its options over. -/
structure Draws (request : Request) (words : Wording) (target : HostValue) (state : State) : Prop where
  answered : (state.run words (.draw target request.call)).outcome = .ok .done
  constructed : ∃ report overrides base, request.Reading words report overrides base ∧
    state.constructed words target request.call =
      [⟨target, (base.withOverrides overrides).chart report⟩]

structure Throws (request : Request) (words : Wording) (target : HostValue) (state : State)
    (stage : Stage) : Prop where
  thrown : ∃ fault, request.Blames words state.refusal stage fault ∧
    (state.run words (.draw target request.call)).outcome =
      .error (request.call.envelope state.clock fault).toJson
  constructed : state.constructed words target request.call = []
  /-- Before the last stage the charting library is not even asked. -/
  unasked : stage ≠ .library → (request.call.run words target state.refusal state.clock).handed = []

/-- How the stages decide what a request comes to on a page. -/
structure Decided (request : Request) (words : Wording) (target : HostValue) (state : State) :
    Prop where
  constructs : state.constructed words target request.call ≠ [] ↔
    ∀ stage, request.Passes words state.refusal stage
  draws : (∀ stage, request.Passes words state.refusal stage) → request.Draws words target state
  fails : ¬(∀ stage, request.Passes words state.refusal stage) →
    ∃! stage, request.FailsFirst words state.refusal stage
  throws : ∀ stage, request.FailsFirst words state.refusal stage →
    request.Throws words target state stage
  /-- Without an override text, any format may be named. -/
  unheeded : request.text = none → ∀ format : Option String,
    state.run words (.draw target { request with format := format }.call) =
      state.run words (.draw target request.call)

variable {words : Wording} {request : Request} {state : State}

theorem draws_of_passes (passes : ∀ stage, request.Passes words state.refusal stage)
    (target : HostValue) : request.Draws words target state := by
  obtain ⟨report, overrides, base, logs, reading, ends⟩ := exists_ends_of_passes passes target
  have accepted : state.refusal = none := passes .library
  refine ⟨ends.outcome, report, overrides, base, reading, ?_⟩
  unfold State.constructed
  rw [ends.handed_run, accepted]

theorem FailsFirst.throws {stage : Stage} (first : request.FailsFirst words state.refusal stage)
    (target : HostValue) : request.Throws words target state stage := by
  obtain ⟨fault, logs, handed, blamed, ends, early⟩ := first.exists_ends target
  have all := ends.handed_run
  constructor
  · exact ⟨fault, blamed, ends.outcome⟩
  · unfold State.constructed
    cases refused : state.refusal with
    | some text => rfl
    | none =>
        rw [refused] at all
        -- the library accepts every chart, so an earlier stage has failed
        have other : stage ≠ .library := by
          rintro rfl
          exact first.fails refused
        exact all.trans (early other)
  · intro other
    exact all.trans (early other)

theorem plan_of_textless (words : Wording) (textless : request.text = none) (format : Option String) :
    { request with format := format }.call.plan words = request.call.plan words := by
  simp only [call, DrawingCall.plan, textless]
  rfl

/--
A request to draw a preset by name with any arguments on any page comes to a chart when every stage
passes, and otherwise to the error of the first stage that does not.
-/
theorem decided_by_stages (request : Request) (words : Wording) (target : HostValue) (state : State) :
    request.Decided words target state where
  constructs := by
    constructor
    · intro constructed stage
      by_contra failed
      obtain ⟨first, fails⟩ := exists_failsFirst failed
      exact constructed (fails.throws target).constructed
    · intro passes
      obtain ⟨report, overrides, base, -, constructed⟩ := (draws_of_passes passes target).constructed
      rw [constructed]
      exact List.cons_ne_nil _ _
  draws passes := draws_of_passes passes target
  fails := by
    intro some
    obtain ⟨stage, failed⟩ := not_forall.mp some
    obtain ⟨first, fails⟩ := exists_failsFirst failed
    exact ⟨first, fails, fun other failsToo => failsToo.unique fails⟩
  throws stage first := first.throws target
  unheeded := by
    intro textless format
    have same := plan_of_textless words textless format
    simp only [State.run, DrawingCall.run, same]
    rfl

end Request

end Page

end ReportCharts
