import ReportCharts.Proofs.Chart.Settings
import ReportCharts.Session

/-!
Runs of a session from its start.

The options of the current preset come from the registry, from partial options that are layered with
or without a check, and from a command that replaces them all. Whatever the order, the rest of the
preset stays as it is registered, and a chart reaches the drawer only from a rendering whose options
have passed their check. A run is cut into turns, a command with the session that it meets: what one
turn keeps and adds is shown once, and a run is the sum of its turns.
-/

namespace ReportCharts

namespace Preset

/-- In all but its options the preset is the one registered under its name. -/
def Registered (preset : Preset) : Prop :=
  ∃ base, find? preset.name = some base ∧ preset = base.withOptions preset.options

theorem Registered.withOptions {preset : Preset} (registered : preset.Registered)
    (options : Options) : (preset.withOptions options).Registered := by
  obtain ⟨base, found, same⟩ := registered
  refine ⟨base, found, ?_⟩
  rw [same]
  rfl

theorem Registered.withOverrides {preset : Preset} (registered : preset.Registered)
    (overrides : Overrides) : (preset.withOverrides overrides).Registered :=
  registered.withOptions (overrides.applyTo preset.options)

theorem registered_of_find? {name : String} {preset : Preset} (found : find? name = some preset) :
    preset.Registered := by
  refine ⟨preset, ?_, rfl⟩
  rw [(find?_mem found).2, found]

theorem registered_of_resolve {name : String} {overrides : Option Overrides} {preset : Preset}
    (resolved : resolve name overrides = .ok preset) : preset.Registered := by
  obtain ⟨base, found, rfl, -, -⟩ := resolve_eq_ok_iff.mp resolved
  cases overrides with
  | none => exact registered_of_find? found
  | some overrides => exact (registered_of_find? found).withOverrides overrides

/-- A rendering passes both checks: no size is zero, and a strict one is of a well-formed report. -/
def Admits (preset : Preset) (report : Report) (mode : Strictness) : Prop :=
  preset.options.barThickness ≠ some 0 ∧ preset.options.titleFontSize ≠ some 0 ∧
    (mode = .strict → ∀ series ∈ report.series, series.values.length = report.labels.length)

instance (preset : Preset) (report : Report) (mode : Strictness) :
    Decidable (preset.Admits report mode) := by
  unfold Admits
  infer_instance

theorem screened_of_admits {preset : Preset} {report : Report} {mode : Strictness}
    (admits : preset.Admits report mode) : ∃ warnings, report.screen mode = .ok warnings := by
  rcases report.screen_cases with ⟨-, passes⟩ | ⟨malformed, series, -, -, warned⟩
  · exact ⟨[], passes mode⟩
  · cases mode with
    | permissive => exact ⟨_, warned⟩
    | strict => exact absurd (admits.2.2 rfl) malformed

section

variable {Drawer : Type} (draw : Drawer → Chart → Except SettingsFault Unit × Drawer)
  (drawer : Drawer) {preset : Preset} {report : Report} {mode : Strictness}

theorem render_of_admits (admits : preset.Admits report mode) :
    (preset.render draw drawer report mode).outcome = (draw drawer (preset.chart report)).1 ∧
      (preset.render draw drawer report mode).drawer = (draw drawer (preset.chart report)).2 := by
  obtain ⟨warnings, screened⟩ := screened_of_admits admits
  have checked := Options.check_eq_ok_iff.mpr ⟨admits.1, admits.2.1⟩
  rw [render_of_admitted draw drawer checked screened]
  exact ⟨rfl, rfl⟩

theorem render_of_not_admits (refused : ¬preset.Admits report mode) :
    (∃ fault, (preset.render draw drawer report mode).outcome = .error fault) ∧
      (preset.render draw drawer report mode).drawer = drawer := by
  cases checked : preset.options.check with
  | error fault =>
      rw [render_of_unusable draw drawer checked]
      exact ⟨⟨fault, rfl⟩, rfl⟩
  | ok usable =>
      cases screened : report.screen mode with
      | error fault =>
          rw [render_of_refused draw drawer checked screened]
          exact ⟨⟨_, rfl⟩, rfl⟩
      | ok warnings =>
          obtain ⟨bars, titles⟩ := Options.check_eq_ok_iff.mp checked
          refine absurd ⟨bars, titles, ?_⟩ refused
          rintro rfl
          rcases report.screen_cases with ⟨wellFormed, -⟩ | ⟨-, series, -, refused, -⟩
          · exact wellFormed
          · rw [refused] at screened
            cases screened

end

end Preset

namespace Session

/-- Every command but the choice of a chart that the caller may have titled. -/
def Command.FromRegistry : Command → Prop
  | .choose _ => False
  | _ => True

structure Turn where
  session : Session
  command : Command

namespace Turn

def step (turn : Turn) : Step := turn.session.step turn.command

def rendering? (turn : Turn) : Option (Preset × Strictness) :=
  match turn.command with
  | .render mode => some (turn.session.preset, mode)
  | .renderWith options mode => some (turn.session.preset.withOptions options, mode)
  | _ => none

/-- The chart of a turn that renders and passes the checks. -/
def asked (turn : Turn) : List Chart :=
  match turn.rendering? with
  | none => []
  | some (preset, mode) =>
      if preset.Admits turn.session.report mode then [preset.chart turn.session.report] else []

def drawn (turn : Turn) : List Chart :=
  match turn.rendering? with
  | none => []
  | some (preset, _) =>
      if turn.step.answer.isOk then [preset.chart turn.session.report] else []

end Turn

def turns (session : Session) : List Command → List Turn
  | [] => []
  | command :: rest => ⟨session, command⟩ :: turns (session.step command).next rest

def after (session : Session) : List Command → Session
  | [] => session
  | command :: rest => after (session.step command).next rest

theorem run_eq_map_turns (session : Session) (commands : List Command) :
    session.run commands = (session.turns commands).map Turn.step := by
  induction commands generalizing session with
  | nil => rfl
  | cons command rest inductionHypothesis =>
      rw [run, turns, List.map_cons, inductionHypothesis]
      rfl

/-- What a turn that does not render leaves as it is. -/
structure Turn.Keeps (turn : Turn) (next : Session) : Prop where
  asked : next.drawer.asked = turn.session.drawer.asked
  drawn : next.drawer.drawn = turn.session.drawer.drawn
  registered : turn.command.FromRegistry → turn.session.preset.Registered → next.preset.Registered

theorem Turn.Keeps.same (turn : Turn) : turn.Keeps turn.session :=
  ⟨rfl, rfl, fun _ registered => registered⟩

theorem Turn.Keeps.silent {turn : Turn} {α : Type} {result : Except SettingsFault α}
    {make : α → Answer × Session}
    (keeps : ∀ value, result = .ok value → turn.Keeps (make value).2) :
    turn.Keeps (turn.session.silent (result >>= fun value => pure (make value))).next := by
  cases result with
  | error fault => exact .same turn
  | ok value => exact keeps value rfl

theorem Turn.keeps_of_no_rendering {turn : Turn} (silent : turn.rendering? = none) :
    turn.Keeps turn.step.next := by
  obtain ⟨session, command⟩ := turn
  cases command with
  | render mode => cases silent
  | renderWith options mode => cases silent
  | overrides text format | report source =>
      apply Turn.Keeps.silent
      intro value done
      exact ⟨rfl, rfl, fun _ registered => registered⟩
  | apply name =>
      apply Turn.Keeps.silent
      intro preset resolved
      exact ⟨rfl, rfl, fun _ _ => Preset.registered_of_resolve resolved⟩
  | find name =>
      simp only [Turn.step, Session.step]
      cases found : Preset.find? name with
      | none => exact .same ⟨session, .find name⟩
      | some preset => exact ⟨rfl, rfl, fun _ _ => Preset.registered_of_find? found⟩
  | withOverrides => exact ⟨rfl, rfl, fun _ registered => registered.withOverrides _⟩
  | choose chart => exact ⟨rfl, rfl, fun fromRegistry => absurd fromRegistry id⟩
  | given overrides | build | fail message =>
      exact ⟨rfl, rfl, fun _ registered => registered⟩

theorem Turn.step_of_rendering {turn : Turn} {preset : Preset} {mode : Strictness}
    (renders : turn.rendering? = some (preset, mode)) :
    turn.step = turn.session.renderWith preset mode := by
  obtain ⟨session, command⟩ := turn
  cases command with
  | render mode | renderWith options mode =>
      cases renders
      rfl
  | _ => cases renders

theorem asked_draw (drawer : Drawer) (chart : Chart) :
    (drawer.draw chart).2.asked = drawer.asked ++ [chart] := by
  unfold Drawer.draw
  cases drawer.failure <;> rfl

theorem drawn_draw (drawer : Drawer) (chart : Chart) :
    (drawer.draw chart).2.drawn =
      drawer.drawn ++ if (drawer.draw chart).1.isOk then [chart] else [] := by
  unfold Drawer.draw
  cases drawer.failure with
  | none => rfl
  | some message => exact (List.append_nil _).symm

theorem isOk_renderWith (session : Session) (preset : Preset) (mode : Strictness) :
    (session.renderWith preset mode).answer.isOk =
      (preset.render Drawer.draw session.drawer session.report mode).outcome.isOk := by
  simp only [renderWith]
  cases (preset.render Drawer.draw session.drawer session.report mode).outcome <;> rfl

/-- The drawer is asked once by a turn whose rendering passes the checks, else not at all. -/
theorem Turn.asked_step (turn : Turn) :
    turn.step.next.drawer.asked = turn.session.drawer.asked ++ turn.asked := by
  unfold Turn.asked
  cases renders : turn.rendering? with
  | none =>
      rw [(keeps_of_no_rendering renders).asked]
      exact (List.append_nil _).symm
  | some rendering =>
      obtain ⟨preset, mode⟩ := rendering
      rw [step_of_rendering renders]
      by_cases admits : preset.Admits turn.session.report mode
      · have drawer := (Preset.render_of_admits Drawer.draw turn.session.drawer admits).2
        simp only [renderWith, drawer, asked_draw, if_pos admits]
      · have drawer := (Preset.render_of_not_admits Drawer.draw turn.session.drawer admits).2
        simp only [renderWith, drawer, if_neg admits, List.append_nil]

theorem Turn.drawn_step (turn : Turn) :
    turn.step.next.drawer.drawn = turn.session.drawer.drawn ++ turn.drawn := by
  unfold Turn.drawn
  cases renders : turn.rendering? with
  | none =>
      rw [(keeps_of_no_rendering renders).drawn]
      exact (List.append_nil _).symm
  | some rendering =>
      obtain ⟨preset, mode⟩ := rendering
      simp only [step_of_rendering renders, isOk_renderWith]
      by_cases admits : preset.Admits turn.session.report mode
      · obtain ⟨outcome, drawer⟩ :=
          Preset.render_of_admits Drawer.draw turn.session.drawer admits
        simp only [renderWith, outcome, drawer, drawn_draw]
      · obtain ⟨⟨fault, outcome⟩, drawer⟩ :=
          Preset.render_of_not_admits Drawer.draw turn.session.drawer admits
        simp [renderWith, outcome, drawer, Except.isOk, Except.toBool]

theorem Turn.registered_step {turn : Turn} (fromRegistry : turn.command.FromRegistry)
    (registered : turn.session.preset.Registered) : turn.step.next.preset.Registered := by
  cases renders : turn.rendering? with
  | none => exact (keeps_of_no_rendering renders).registered fromRegistry registered
  | some rendering =>
      rw [step_of_rendering renders]
      exact registered

theorem Turn.asked_from_registry {turn : Turn} (registered : turn.session.preset.Registered)
    {chart : Chart} (member : chart ∈ turn.asked) :
    ∃ base, Preset.find? turn.session.preset.name = some base ∧ chart.kind = base.kind ∧
      chart.ColoredBy base.colors turn.session.report ∧ chart.Visible := by
  obtain ⟨session, command⟩ := turn
  obtain ⟨base, found, same⟩ := registered
  have made : ∃ options mode, (session.preset.withOptions options).Admits session.report mode ∧
      chart = (session.preset.withOptions options).chart session.report := by
    unfold Turn.asked at member
    cases command with
    | render mode =>
        by_cases admits : session.preset.Admits session.report mode
        · have only : chart = session.preset.chart session.report := by
            simpa [Turn.rendering?, admits] using member
          exact ⟨session.preset.options, mode, admits, only⟩
        · simp [Turn.rendering?, admits] at member
    | renderWith options mode =>
        by_cases admits : (session.preset.withOptions options).Admits session.report mode
        · have only : chart = (session.preset.withOptions options).chart session.report := by
            simpa [Turn.rendering?, admits] using member
          exact ⟨options, mode, admits, only⟩
        · simp [Turn.rendering?, admits] at member
    | _ => simp [Turn.rendering?] at member
  obtain ⟨options, mode, admits, rfl⟩ := made
  refine ⟨base, found, ?_, ?_, ?_⟩
  · change session.preset.kind = base.kind
    rw [same]
    rfl
  · have colors : session.preset.colors = base.colors := by
      rw [same]
      rfl
    rw [← colors]
    exact Preset.coloredBy_chart _ _
  · exact Preset.visible_chart (Options.check_eq_ok_iff.mpr ⟨admits.1, admits.2.1⟩) _

theorem asked_after (session : Session) (commands : List Command) :
    (session.after commands).drawer.asked =
      session.drawer.asked ++ (session.turns commands).flatMap Turn.asked := by
  induction commands generalizing session with
  | nil => exact (List.append_nil _).symm
  | cons command rest inductionHypothesis =>
      have first := Turn.asked_step ⟨session, command⟩
      rw [after, turns, List.flatMap_cons, inductionHypothesis, ← List.append_assoc, ← first]
      rfl

theorem drawn_after (session : Session) (commands : List Command) :
    (session.after commands).drawer.drawn =
      session.drawer.drawn ++ (session.turns commands).flatMap Turn.drawn := by
  induction commands generalizing session with
  | nil => exact (List.append_nil _).symm
  | cons command rest inductionHypothesis =>
      have first := Turn.drawn_step ⟨session, command⟩
      rw [after, turns, List.flatMap_cons, inductionHypothesis, ← List.append_assoc, ← first]
      rfl

theorem registered_after {session : Session} (registered : session.preset.Registered)
    {commands : List Command} (fromRegistry : ∀ command ∈ commands, command.FromRegistry) :
    (session.after commands).preset.Registered ∧
      ∀ turn ∈ session.turns commands, turn.session.preset.Registered := by
  induction commands generalizing session with
  | nil => exact ⟨registered, by simp [turns]⟩
  | cons command rest inductionHypothesis =>
      have first : (Turn.step ⟨session, command⟩).next.preset.Registered :=
        Turn.registered_step (fromRegistry command (by simp)) registered
      obtain ⟨last, others⟩ := inductionHypothesis first
        fun command member => fromRegistry command (by simp [member])
      refine ⟨last, ?_⟩
      intro turn member
      rcases List.mem_cons.mp member with rfl | member
      · exact registered
      · exact others turn member

/-- What holds of a run from the start of a session. -/
structure SafeRun (words : Overrides.Wording) (commands : List Command) : Prop where
  turns : (start words).run commands = ((start words).turns commands).map Turn.step
  registered : ((start words).after commands).preset.Registered
  once : ∀ turn ∈ (start words).turns commands,
    turn.step.next.drawer.asked = turn.session.drawer.asked ++ turn.asked
  faithful : ∀ turn ∈ (start words).turns commands, ∀ chart ∈ turn.asked,
    ∃ base, Preset.find? turn.session.preset.name = some base ∧ chart.kind = base.kind ∧
      chart.ColoredBy base.colors turn.session.report ∧ chart.Visible
  asked : ((start words).after commands).drawer.asked =
    ((start words).turns commands).flatMap Turn.asked
  drawn : ((start words).after commands).drawer.drawn =
    ((start words).turns commands).flatMap Turn.drawn

/--
Whatever commands are given in whatever order, and whenever the drawer is out of order: the preset is
a registered one but for its options, the drawer is asked once for every rendering that passes the
checks and for nothing else, and what it has drawn is what the successful renderings made.
-/
theorem safeRun_of_fromRegistry (words : Overrides.Wording) {commands : List Command}
    (fromRegistry : ∀ command ∈ commands, command.FromRegistry) : SafeRun words commands := by
  have found : Preset.find? DashboardChart.buildsPerRecord.name = some Preset.buildsPerRecord := rfl
  have atStart : (start words).preset.Registered := Preset.registered_of_find? found
  obtain ⟨last, each⟩ := registered_after atStart fromRegistry
  refine ⟨run_eq_map_turns (start words) commands, last, ?_, ?_, ?_, ?_⟩
  · intro turn _
    exact turn.asked_step
  · intro turn member chart asked
    exact Turn.asked_from_registry (each turn member) asked
  · exact asked_after (start words) commands
  · exact drawn_after (start words) commands

theorem safeRun_thermal :
    let commands : List Command :=
      [.given (some { barThickness := some 0 }), .apply "thermal", .find "thermal", .withOverrides,
        .report (.given (.single "Week 1" ["thermal"] [])), .render .permissive,
        .renderWith {} .strict, .fail (some "out of order"), .renderWith {} .permissive,
        .fail none, .renderWith { stacked := true } .permissive]
    (∀ command ∈ commands, command.FromRegistry) ∧ SafeRun default commands ∧
      ((start default).after commands).drawer.asked.length = 2 ∧
      ((start default).after commands).drawer.drawn.length = 1 := by
  intro commands
  have fromRegistry : ∀ command ∈ commands, command.FromRegistry := by
    simp [commands, Command.FromRegistry]
  exact ⟨fromRegistry, safeRun_of_fromRegistry default fromRegistry, rfl, rfl⟩

end Session

end ReportCharts
