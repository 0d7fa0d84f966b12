import ReportCharts.Page.Drawing
import ReportCharts.Page.Elements

/-!
A page and the calls that its scripts make on it, in any order.
-/

namespace ReportCharts.Page

/-- The state of a page: its elements, and the text that the charting library throws, if any. -/
structure State where
  scene : Scene
  refusal : Option String
  clock : UInt64

inductive Call where
  | init
  | draw (target : HostValue) (call : DrawingCall)
  | presetNames
  | initTabs
  | highlightTabs (path : String) (navigation : Navigation)
  | toggle (id : String) (sequence : List String)
  | bind (button target : String) (sequence : List String)
  | weeklyCounts (weeks : HostValue)
  | click (id : String)
  /-- The page takes an element out of the document. -/
  | detach (id : String)
  /-- The charting library starts or stops throwing a text. -/
  | refuse (text : Option String)
  | move (path : String)

inductive Answer where
  | done
  | tab (index : Option Nat)
  | names (names : List String)
  | counts (counts : Except ChartFault (List (String × Binary64)))

structure Reply where
  outcome : Except String Answer
  logs : List Log.Line
  handed : Option Handed
  next : State

def startLine : Log.Line := ⟨.info, "Telemetry charts initialized"⟩

namespace State

def answer (state : State) (answer : Answer) (logs : List Log.Line) : Reply :=
  ⟨.ok answer, logs, none, state⟩

def withScene (state : State) (scene : Scene) : State := { state with scene := scene }

variable (words : Wording)

def run (state : State) : Call → Reply
  | .init => state.answer .done [startLine]
  | .presetNames => state.answer (.names Preset.names) []
  | .weeklyCounts weeks => state.answer (.counts (Page.weeklyCounts weeks)) []
  | .draw target call =>
      let drawn := call.run words target state.refusal state.clock
      ⟨drawn.outcome.map fun () => .done, drawn.logs, drawn.handed.head?, state⟩
  | .initTabs =>
      let result := state.scene.initTabs
      ⟨result.outcome.map .tab, result.logs, none, state.withScene result.scene⟩
  | .highlightTabs path navigation =>
      let result := state.scene.highlightTabs path navigation
      ⟨result.outcome.map .tab, result.logs, none, state.withScene result.scene⟩
  | .toggle id sequence =>
      let (outcome, scene) := state.scene.toggle id sequence
      ⟨outcome.map fun () => .done, [], none, state.withScene scene⟩
  | .bind button target sequence =>
      let (outcome, scene) := state.scene.bind button target sequence
      ⟨outcome.map fun () => .done, [], none, state.withScene scene⟩
  | .click id =>
      let (scene, logs) := state.scene.click id
      ⟨.ok .done, logs, none, state.withScene scene⟩
  | .detach id => (state.withScene (state.scene.detach id)).answer .done []
  | .refuse text => { state with refusal := text }.answer .done []
  | .move path => (state.withScene { state.scene with path := .ok path }).answer .done []

def runAll (state : State) : List Call → List Reply
  | [] => []
  | call :: rest =>
      let reply := state.run words call
      reply :: runAll reply.next rest

end State

end ReportCharts.Page
