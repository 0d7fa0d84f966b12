import ReportCharts.Proofs.Page.Buttons

/-!
Toggles that fail.

A toggle takes one class and gives the next, and each may be refused on its own. Where there is no class
to take, or the class to take is refused, nothing has happened yet when the toggle fails. Where the class
is gone and its successor is refused, it stays gone, for nothing gives it back. That is the one way in
which a toggle that fails leaves a trace.
-/

namespace ReportCharts

namespace ClassToggle

/-- The first class of a sequence that is present, and the class after it; the first follows the last. -/
def Passes (sequence classes : List String) (token successor : String) : Prop :=
  ∃ position, sequence[position]? = some token ∧ token ∈ classes ∧
    (∀ earlier < position, ¬Carries sequence classes earlier) ∧
    sequence[(position + 1) % sequence.length]? = some successor

variable {sequence classes : List String} {token successor : String}

theorem next?_eq_some_iff :
    next? classes.contains sequence = some ⟨some token, successor⟩ ↔
      Passes sequence classes token successor := by
  constructor
  · intro chosen
    by_cases present : ∃ position, Carries sequence classes position
    · obtain ⟨first, ⟨found, here, member⟩, lowest⟩ := exists_lowest present
      have least : ∀ earlier < first, ¬Carries sequence classes earlier := by
        intro earlier before carries
        exact Nat.not_le_of_lt before (lowest earlier carries)
      have inside : (first + 1) % sequence.length < sequence.length :=
        Nat.mod_lt _ (Nat.zero_lt_of_lt (List.getElem?_eq_some_iff.mp here).1)
      have follows := List.getElem?_eq_getElem inside
      have same := (next?_of_first here member least follows).symm.trans chosen
      simp only [Option.some.injEq, mk.injEq] at same
      obtain ⟨rfl, rfl⟩ := same
      exact ⟨first, here, member, least, follows⟩
    · rcases sequence with _ | ⟨head, rest⟩
      · cases chosen
      · rw [next?_of_none rfl (not_exists.mp present)] at chosen
        cases chosen
  · rintro ⟨position, here, member, least, follows⟩
    exact next?_of_first here member least follows

end ClassToggle

namespace Page

namespace Scene

variable (scene : Scene)

/-- A toggle takes a class from the element at a position and is refused the one that comes next. -/
def Loses (position : Nat) (sequence : List String) (token : String) : Prop :=
  scene.refusal token = none ∧ ∃ successor, scene.refusal successor ≠ none ∧
    ClassToggle.Passes sequence (scene.classesAt position) token successor

section

variable {scene} {id refusal token : String} {sequence : List String} {position : Nat}

theorem Loses.mem (loses : scene.Loses position sequence token) :
    token ∈ scene.classesAt position := by
  obtain ⟨-, successor, -, place, -, member, -⟩ := loses
  exact member

theorem stepped_of_loses (loses : scene.Loses position sequence token) :
    scene.stepped sequence (scene.classesAt position) =
      ClassList.remove token (scene.classesAt position) := by
  obtain ⟨accepted, successor, refused, passes⟩ := loses
  have refused : (scene.refusal successor).isSome := Option.isSome_iff_ne_none.mpr refused
  simp [stepped, ClassToggle.next?_eq_some_iff.mpr passes, accepted, refused]

theorem finds_eq_of_finds (found : scene.finds id position) (place : Nat) :
    scene.finds id place = (position == place) := by
  unfold finds at found ⊢
  cases first : scene.byId id with
  | error text => simp [first] at found
  | ok other =>
      obtain rfl : other = position := by simpa [first] using found
      rfl

/-- A toggle that fails without losing a class has not changed the class list. -/
theorem stepped_of_failed (failed : (scene.toggleAt position sequence).1 = .error refusal)
    (keeps : ∀ token, ¬scene.Loses position sequence token) :
    scene.stepped sequence (scene.classesAt position) = scene.classesAt position := by
  unfold stepped
  cases chosen : ClassToggle.next? (scene.classesAt position).contains sequence with
  | none => rfl
  | some toggle =>
      obtain ⟨out, into⟩ := toggle
      simp only [toggleAt, chosen] at failed
      cases out with
      | none =>
          cases refused : scene.refusal into with
          | none => simp [addClass, refused] at failed
          | some text => simp [refused]
      | some token =>
          -- a refused removal comes before anything has happened; a refused addition comes after it
          cases refusedOut : scene.refusal token with
          | some text => simp [refusedOut]
          | none =>
              cases refused : scene.refusal into with
              | none => simp [removeClass, addClass, refusedOut, refused] at failed
              | some text =>
                  cases keeps token ⟨refusedOut, into, by simp [refused],
                    ClassToggle.next?_eq_some_iff.mp chosen⟩

end

structure FailedToggle (before after : Scene) (id : String) (sequence : List String) : Prop where
  bare : after.bare = before.bare
  kept : (∀ position token, before.finds id position → ¬before.Loses position sequence token) →
    after = before
  lost : ∀ position token, before.finds id position → before.Loses position sequence token →
    token ∈ before.classesAt position ∧
      ∀ place, after.classesAt place =
        if position = place then ClassList.remove token (before.classesAt position)
        else before.classesAt place

theorem failedToggle_of_error {id refusal : String} {sequence : List String}
    (failed : (scene.toggle id sequence).1 = .error refusal) :
    FailedToggle scene (scene.toggle id sequence).2 id sequence := by
  refine ⟨scene.bare_toggle id sequence, ?_, ?_⟩
  · intro keeps
    unfold toggle at failed ⊢
    unfold finds at keeps
    cases found : scene.byId id with
    | error text => rfl
    | ok position =>
        simp only [found] at failed keeps ⊢
        rw [toggleAt_snd, stepped_of_failed failed, setClasses_classesAt]
        intro token
        exact keeps position token (beq_self_eq_true position)
  · intro position token found loses
    refine ⟨loses.mem, ?_⟩
    intro place
    rw [classesAt_toggle, finds_eq_of_finds found]
    by_cases same : position = place
    · subst same
      simp [stepped_of_loses loses]
    · simp [same]

theorem runListeners_append (earlier later : List Listener) :
    scene.runListeners (earlier ++ later) =
      (((scene.runListeners earlier).1.runListeners later).1,
        (scene.runListeners earlier).2 ++ ((scene.runListeners earlier).1.runListeners later).2) := by
  induction earlier generalizing scene with
  | nil => rfl
  | cons listener rest inductionHypothesis =>
      rw [List.cons_append, runListeners_cons, runListeners_cons, inductionHypothesis,
        List.append_assoc]

end Scene

/-- What the document's own class lists refuse: the empty class, and classes with white space in them. -/
def classRefusal (token : String) : Option String :=
  if token = "" then some "SyntaxError"
  else if token.toList.any fun c => [' ', '\t', '\n', '\x0c', '\r'].contains c then
    some "InvalidCharacterError"
  else none

namespace State

/--
What toggles that fail leave of a page: those that are called, and those that a click runs, each on the
page as the listeners before it have left it.
-/
structure FailsAlike (words : Wording) (state : State) : Prop where
  called : ∀ id sequence text, (state.run words (.toggle id sequence)).outcome = .error text →
    Scene.FailedToggle state.scene (state.run words (.toggle id sequence)).next.scene id sequence
  clicked : ∀ position earlier listener later,
    state.scene.listenersAt position = earlier ++ listener :: later →
    ∀ met logs, state.scene.runListeners earlier = (met, logs) →
      ∀ refusal left, met.toggle listener.target listener.sequence = (.error refusal, left) →
        Scene.FailedToggle met left listener.target listener.sequence ∧
          (state.press position).next.scene = (left.runListeners later).1 ∧
          (state.press position).logs =
            logs ++ Scene.toggleFailure refusal :: (left.runListeners later).2

/--
A toggle that fails leaves the page as it was, unless it has taken a class whose successor is refused:
then that class alone is gone. So it is for the toggles of a click, whose failures are logged.
-/
theorem failsAlike (words : Wording) (state : State) : state.FailsAlike words := by
  constructor
  · intro id sequence text failed
    have refused : (state.scene.toggle id sequence).1 = .error text := by
      simp only [run] at failed
      cases outcome : (state.scene.toggle id sequence).1 with
      | ok done =>
          rw [outcome] at failed
          cases failed
      | error refusal =>
          rw [outcome] at failed
          rw [Except.error.inj failed]
    exact state.scene.failedToggle_of_error refused
  · intro position earlier listener later bound met logs before refusal left failed
    have alike := met.failedToggle_of_error (congrArg Prod.fst failed)
    rw [failed] at alike
    have pressed : state.scene.press position =
        ((left.runListeners later).1,
          logs ++ Scene.toggleFailure refusal :: (left.runListeners later).2) := by
      rw [Scene.press, bound, Scene.runListeners_append, before, Scene.runListeners_cons, failed]
      rfl
    refine ⟨alike, ?_, ?_⟩
    · simp only [press, pressed, withScene]
    · simp only [press, pressed]

/--
A switch is bound to a lamp whose next class is refused, and to a lamp that is not there. The click takes
the class from the lamp, and both failures are logged.
-/
theorem failsAlike_switch :
    let lamp : Element := ⟨some "lamp", none, [], ["lit", "red"], [], true⟩
    let bound : List Listener := [⟨"lamp", ["red", ""]⟩, ⟨"ghost", ["on"]⟩]
    let switch : Element := ⟨some "switch", none, [], [], bound, true⟩
    let state : State := ⟨⟨true, true, .ok "/", [switch, lamp], classRefusal⟩, none, 0⟩
    let left := (state.scene.toggle "lamp" ["red", ""]).2
    (∀ place, left.classesAt place = if 1 = place then ["lit"] else state.scene.classesAt place) ∧
      (state.press 0).next.scene = left ∧
      (state.press 0).logs = [Scene.toggleFailure "SyntaxError",
        Scene.toggleFailure "Element not found: ghost"] := by
  intro lamp bound switch state left
  obtain ⟨alike, next, logs⟩ := (failsAlike default state).clicked 0 [] ⟨"lamp", ["red", ""]⟩
    [⟨"ghost", ["on"]⟩] rfl state.scene [] rfl "SyntaxError" left rfl
  have loses : state.scene.Loses 1 ["red", ""] "red" :=
    ⟨rfl, "", nofun, 0, rfl, by decide, nofun, rfl⟩
  exact ⟨(alike.lost 1 "red" rfl loses).2, next, logs⟩

/-- A toggle throws, and the class that the element had is gone. -/
theorem failed_toggle_takes_class :
    let lamp : Element := ⟨some "lamp", none, [], ["red"], [], true⟩
    let state : State := ⟨⟨true, true, .ok "/", [lamp], classRefusal⟩, none, 0⟩
    let reply := state.run default (.toggle "lamp" ["red", "btn btn-primary"])
    reply.outcome = .error "InvalidCharacterError" ∧ state.scene.classesAt 0 = ["red"] ∧
      reply.next.scene.classesAt 0 = [] := by
  intro lamp state reply
  exact ⟨rfl, rfl, rfl⟩

end State

end Page

end ReportCharts
