import ReportCharts.Proofs.Page.Faults
import ReportCharts.Proofs.Schema.Envelope

/-!
What a page can rely on when it makes a drawing call.

A call constructs one chart and reports no error, or it throws the text of an envelope that names the
call, and the one error that it reports tells the same fault.
-/

namespace ReportCharts

open Json

def Log.errors (lines : List Log.Line) : List Log.Line :=
  lines.filter fun line => line.level = .error

theorem Report.level_of_screen {report : Report} {mode : Strictness} {warnings : List Log.Line}
    (screened : report.screen mode = .ok warnings) : ∀ line ∈ warnings, line.level = .warn := by
  rcases report.screen_cases with ⟨-, passes⟩ | ⟨-, series, -, strict, permissive⟩
  · rw [passes mode] at screened
    cases screened
    simp
  · cases mode with
    | strict =>
        rw [strict] at screened
        cases screened
    | permissive =>
        rw [permissive] at screened
        cases screened
        simp [warning]

namespace Page.DrawingCall

variable {words : Wording} {call : DrawingCall} {target : HostValue} {refusal : Option String}
  {logs : List Log.Line} {handed : List Handed}

theorem ofText_envelope (call : DrawingCall) (clock : UInt64) {fault : ChartFault}
    (sized : fault.Sized) :
    Envelope.shape.ofText (call.envelope clock fault).toJson = .ok (call.envelope clock fault) := by
  have metadata : call.metadata.Whole ∧ call.metadata.Sorted ∧ call.metadata.depth ≤ 125 := by
    cases call with
    | preset name report text format strict =>
        have ascending : ["preset", "strict"].Pairwise (· < ·) := by decide
        have shallow : (DrawingCall.preset name report text format strict).metadata.depth = 1 := by
          simp [DrawingCall.metadata, Value.depth, Value.membersDepth]
        exact ⟨⟨trivial, trivial, trivial⟩, ⟨ascending, trivial, trivial, trivial⟩, by omega⟩
    | _ => exact ⟨trivial, trivial, Nat.zero_le 125⟩
  have plain : (call.envelope clock fault).Plain := by
    refine ⟨sized, ?_⟩
    intro context member
    obtain rfl := Option.some.inj member
    exact metadata
  exact Envelope.roundTrips.ofText_toText (by decide) Envelope.whole plain

theorem Ends.quiet {fault : Option ChartFault}
    (ends : call.Ends words target refusal fault logs handed) : Log.errors logs = [] := by
  cases ends with
  | unread planned | unusable planned checked | refused planned checked screened => rfl
  | admitted planned checked screened =>
      unfold Log.errors
      rw [List.filter_eq_nil_iff]
      intro line member
      rcases List.mem_append.mp member with member | member
      · simp [Report.level_of_screen screened line member]
      · obtain rfl := List.mem_singleton.mp member
        simp [Preset.drawingLine]

theorem Ends.handed_of_none (ends : call.Ends words target refusal none logs handed) :
    ∃ chart, handed = [⟨target, chart⟩] := by
  generalize outcome : none = ended at ends
  cases ends with
  | unread planned | unusable planned checked | refused planned checked screened => cases outcome
  | admitted planned checked screened => exact ⟨_, rfl⟩

/-- A call that fails hands nothing over, unless it fails for what the charting library throws. -/
theorem Ends.handed_of_some {fault : ChartFault}
    (ends : call.Ends words target refusal (some fault) logs handed) :
    handed = [] ∨ ∃ chart cause, handed = [⟨target, chart⟩] ∧
      fault = .interop ("Chart construction failed: " ++ cause) := by
  generalize outcome : some fault = ended at ends
  cases ends with
  | unread planned | unusable planned checked | refused planned checked screened => exact .inl rfl
  | admitted planned checked screened =>
      obtain ⟨text, -, rfl⟩ := Option.map_eq_some_iff.mp outcome.symm
      exact .inr ⟨_, _, rfl, rfl⟩

structure Draws (call : DrawingCall) (words : Wording) (target : HostValue) (state : State) : Prop where
  answered : (state.run words (.draw target call)).outcome = .ok .done
  constructed : ∃ chart, (call.run words target state.refusal state.clock).handed = [⟨target, chart⟩]
  quiet : Log.errors (state.run words (.draw target call)).logs = []

structure Throws (call : DrawingCall) (words : Wording) (target : HostValue) (state : State)
    (envelope : Envelope) : Prop where
  thrown : ∃ text, (state.run words (.draw target call)).outcome = .error text ∧
    Envelope.shape.ofText text = .ok envelope
  unsuccessful : envelope.success = false
  context : envelope.context = some ⟨"ChartAdapter", call.name, call.metadata⟩
  reported : Log.errors (state.run words (.draw target call)).logs =
    [⟨.error, call.name ++ " failed: " ++ envelope.fault.message⟩]
  constructed : (call.run words target state.refusal state.clock).handed = [] ∨
    ∃ chart cause, (call.run words target state.refusal state.clock).handed = [⟨target, chart⟩] ∧
      envelope.fault = .interop ("Chart construction failed: " ++ cause)

/-- What the page is told at a time of the clock when a call ends with a fault or without one. -/
def told (call : DrawingCall) (clock : UInt64) : Option ChartFault → Except String Answer
  | none => .ok .done
  | some fault => .error (call.envelope clock fault).toJson

/-- What a page can rely on in one of its states. -/
structure Contract (call : DrawingCall) (words : Wording) (target : HostValue) (state : State) :
    Prop where
  ends : call.Draws words target state ∨ ∃ envelope, call.Throws words target state envelope
  once : ¬(call.Draws words target state ∧ ∃ envelope, call.Throws words target state envelope)
  kept : (state.run words (.draw target call)).next = state
  /-- Pages of any other kind see the same as long as their charting library throws the same. -/
  determined : ∃ fault : Option ChartFault, ∀ other : State, other.refusal = state.refusal →
    (other.run words (.draw target call)).outcome = call.told other.clock fault ∧
      (other.run words (.draw target call)).logs = (state.run words (.draw target call)).logs ∧
      (other.run words (.draw target call)).handed = (state.run words (.draw target call)).handed

theorem Ends.draws {state : State} (ends : call.Ends words target state.refusal none logs handed) :
    call.Draws words target state := by
  have ran := ends.run_eq_close state.clock
  constructor
  · simp only [State.run, ran, close, Except.map]
  · rw [ran]
    exact ends.handed_of_none
  · simp only [State.run, ran, close, ends.quiet]

theorem Ends.throws {state : State} {fault : ChartFault} (sized : call.Sized)
    (ends : call.Ends words target state.refusal (some fault) logs handed) :
    call.Throws words target state (call.envelope state.clock fault) := by
  have ran := ends.run_eq_close state.clock
  refine ⟨⟨(call.envelope state.clock fault).toJson, ?_, ?_⟩, rfl, rfl, ?_, ?_⟩
  · simp only [State.run, ran, close, fail, Except.map]
  · exact ofText_envelope call state.clock (ends.sized sized)
  · have quiet := ends.quiet
    unfold Log.errors at quiet ⊢
    simp only [State.run, ran, close, fail, List.filter_append, quiet]
    rfl
  · rw [ran]
    exact ends.handed_of_some

/--
Every drawing call with any arguments, on any page: it constructs one chart and reports no error, or it
throws an envelope of its own and reports the fault in it, once and with at most one chart constructed;
the page stays as it is, and nothing but the charting library's refusal has a part in what happens.
-/
theorem contract_of_sized {call : DrawingCall} (sized : call.Sized) (words : Wording)
    (target : HostValue) (state : State) : call.Contract words target state := by
  obtain ⟨fault, logs, handed, ends⟩ := call.exists_ends words target state.refusal
  have determined : ∀ other : State, other.refusal = state.refusal →
      (other.run words (.draw target call)).outcome = call.told other.clock fault ∧
        (other.run words (.draw target call)).logs = (state.run words (.draw target call)).logs ∧
        (other.run words (.draw target call)).handed = (state.run words (.draw target call)).handed := by
    intro other same
    have here := ends.run_eq_close state.clock
    have there := ends.run_eq_close other.clock
    simp only [State.run, same, here, there]
    cases fault with
    | none => exact ⟨rfl, rfl, rfl⟩
    | some fault => exact ⟨rfl, rfl, rfl⟩
  refine ⟨?_, ?_, rfl, fault, determined⟩
  · cases fault with
    | none => exact .inl ends.draws
    | some fault => exact .inr ⟨_, ends.throws sized⟩
  · rintro ⟨draws, envelope, throws⟩
    obtain ⟨text, thrown, -⟩ := throws.thrown
    rw [draws.answered] at thrown
    cases thrown

theorem contract_strict_malformed :
    let series : HostValue := .object [("label", .string "Records"), ("values", .array [])]
    let report : HostValue :=
      .object [("labels", .array [.string "b1"]), ("series", .array [series])]
    let call : DrawingCall := .preset "builds" report none none true
    let state : State :=
      ⟨⟨false, false, .error "SecurityError", [], fun _ => none⟩, none, 1700000000000⟩
    call.Sized ∧ call.Contract default (.string "canvas") state ∧
      (call.run default (.string "canvas") state.refusal state.clock).handed = [] := by
  intro series report call state
  have sizedSeries : series.Sized := by
    refine .object ?_
    intro member among
    rcases List.mem_cons.mp among with rfl | among
    · exact .string _
    · obtain rfl := List.mem_singleton.mp among
      exact .array (by decide) (by simp)
  have sized : call.Sized := by
    intro argument among
    obtain rfl := List.mem_singleton.mp among
    refine .object ?_
    intro member among
    rcases List.mem_cons.mp among with rfl | among
    · refine .array (by decide) ?_
      intro item among
      obtain rfl := List.mem_singleton.mp among
      exact .string _
    · obtain rfl := List.mem_singleton.mp among
      refine .array (by decide) ?_
      intro item among
      obtain rfl := List.mem_singleton.mp among
      exact sizedSeries
  exact ⟨sized, contract_of_sized sized _ _ state, rfl⟩

end Page.DrawingCall

end ReportCharts
