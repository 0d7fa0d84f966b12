import ReportCharts.Proofs.ClassCycle.Rotation
import ReportCharts.Proofs.Page.Tabs

/-!
Buttons that step class cycles, over everything that can happen to a page.

What an element does when it is clicked is a list of listeners, and only a binding adds to one. So the
listeners of an element are the bindings made on it so far, and a click makes the calls that they stand
for, each on the page as the one before has left it. Calls of this kind change class lists and nothing
else of a page; which element a call finds is therefore the same for all calls of one click.
-/

namespace ReportCharts.Page

namespace Scene

def bare (scene : Scene) : Scene :=
  { scene with elements := scene.elements.map fun element => { element with classes := [] } }

variable (scene : Scene)

theorem getElem?_bare (position : Nat) :
    scene.bare.elements[position]? =
      (scene.elements[position]?).map fun element => { element with classes := [] } :=
  List.getElem?_map

def listenersAt (position : Nat) : List Listener :=
  ((scene.elements[position]?).map Element.listeners).getD []

theorem bare_setClasses (position : Nat) (classes : List String) :
    (scene.setClasses position classes).bare = scene.bare := by
  apply eq_of_elements rfl
  intro other
  rw [getElem?_bare, getElem?_bare, getElem?_setClasses]
  cases scene.elements[other]? with
  | none => rfl
  | some element => by_cases same : other = position <;> simp [same]

/--
What stepping through a sequence leaves of a class list. A list that refuses the class that would go
stays as it is; one that refuses the class that would come has parted with the other all the same.
-/
def stepped (sequence classes : List String) : List String :=
  match ClassToggle.next? classes.contains sequence with
  | none => classes
  | some toggle =>
      if toggle.out.any fun token => (scene.refusal token).isSome then classes
      else
        let rest := toggle.out.elim classes (ClassList.remove · classes)
        if (scene.refusal toggle.into).isSome then rest else ClassList.add toggle.into rest

theorem setClasses_classesAt (position : Nat) :
    scene.setClasses position (scene.classesAt position) = scene := by
  apply eq_of_elements rfl
  intro other
  rw [getElem?_setClasses]
  cases here : scene.elements[other]? with
  | none => rfl
  | some element =>
      by_cases same : other = position
      · subst same
        simp [classesAt_of_getElem? here]
      · simp [same]

theorem toggleAt_snd (position : Nat) (sequence : List String) :
    (scene.toggleAt position sequence).2 =
      scene.setClasses position (scene.stepped sequence (scene.classesAt position)) := by
  cases chosen : ClassToggle.next? (scene.classesAt position).contains sequence with
  | none => simp only [toggleAt, stepped, chosen, setClasses_classesAt]
  | some toggle =>
      obtain ⟨out, into⟩ := toggle
      cases out with
      | none =>
          cases refused : scene.refusal into <;>
            simp [toggleAt, stepped, chosen, addClass, refused]
      | some token =>
          cases refusedOut : scene.refusal token with
          | some refusal =>
              simp [toggleAt, stepped, chosen, removeClass, refusedOut, setClasses_classesAt]
          | none =>
              cases refused : scene.refusal into <;>
                simp [toggleAt, stepped, chosen, removeClass, addClass, refused, refusedOut]

theorem bare_toggle (id : String) (sequence : List String) :
    (scene.toggle id sequence).2.bare = scene.bare := by
  unfold toggle
  cases scene.byId id with
  | error refusal => rfl
  | ok position =>
      rw [toggleAt_snd]
      exact scene.bare_setClasses position _

/-- The element with an id in the document is the one at a position. -/
def finds (id : String) (position : Nat) : Bool :=
  match scene.byId id with
  | .ok place => place == position
  | .error _ => false

theorem exists_of_byId {id : String} {position : Nat} (found : scene.byId id = .ok position) :
    ∃ element, scene.elements[position]? = some element ∧ element.attached = true ∧
      element.id = some id := by
  unfold byId at found
  cases document : scene.checkDocument with
  | error refusal =>
      rw [document] at found
      cases found
  | ok present =>
      rw [document] at found
      cases first : scene.positionWhere? fun element =>
          element.attached && element.id == some id with
      | none =>
          rw [first] at found
          cases found
      | some place =>
          rw [first] at found
          cases found
          obtain ⟨inside, has, -⟩ := List.findIdx?_eq_some_iff_getElem.mp first
          refine ⟨scene.elements[position], List.getElem?_eq_getElem inside, ?_⟩
          simpa using has

theorem classesAt_setClasses {place : Nat} {found : Element}
    (there : scene.elements[place]? = some found) (classes : List String) (position : Nat) :
    (scene.setClasses place classes).classesAt position =
      if place = position then classes else scene.classesAt position := by
  unfold classesAt
  rw [getElem?_setClasses]
  by_cases same : position = place
  · subst same
    simp [there]
  · rw [if_neg (Ne.symm same)]
    simp [same]

theorem classesAt_toggle (id : String) (sequence : List String) (position : Nat) :
    (scene.toggle id sequence).2.classesAt position =
      if scene.finds id position then scene.stepped sequence (scene.classesAt position)
      else scene.classesAt position := by
  unfold toggle finds
  cases found : scene.byId id with
  | error refusal => rfl
  | ok place =>
      obtain ⟨element, there, -, -⟩ := scene.exists_of_byId found
      simp only [toggleAt_snd, scene.classesAt_setClasses there, beq_iff_eq]
      by_cases same : place = position
      · subst same
        rfl
      · simp [same]

def press (position : Nat) : Scene × List Log.Line := scene.runListeners (scene.listenersAt position)

def failureLines {α : Type} : Except String α → List Log.Line
  | .ok _ => []
  | .error refusal => [toggleFailure refusal]

theorem runListeners_cons (listener : Listener) (rest : List Listener) :
    scene.runListeners (listener :: rest) =
      (((scene.toggle listener.target listener.sequence).2.runListeners rest).1,
        failureLines (scene.toggle listener.target listener.sequence).1 ++
          ((scene.toggle listener.target listener.sequence).2.runListeners rest).2) := by
  rw [runListeners]
  rcases scene.toggle listener.target listener.sequence with ⟨refusal | done, after⟩ <;> rfl

end Scene

/-- A call of the scripts, or something that the page or the user does to an element. -/
inductive Event where
  | call (call : Call)
  /--
  The page puts an element into the document or takes it out. Elements that are yet to come are among
  those of the scene, out of the document until then.
  -/
  | place (position : Nat) (attached : Bool)
  | press (position : Nat)

def Listener.call (listener : Listener) : Call := .toggle listener.target listener.sequence

namespace State

def press (state : State) (position : Nat) : Reply :=
  ⟨.ok .done, (state.scene.press position).2, none, state.withScene (state.scene.press position).1⟩

variable (words : Wording)

def meet (state : State) : Event → State
  | .call call => (state.run words call).next
  | .place position attached =>
      state.withScene (state.scene.modifyAt position fun element =>
        { element with attached := attached })
  | .press position => (state.press position).next

def after (state : State) (events : List Event) : State := events.foldl (meet words) state

/-- What an event binds to the element at a position: a binding call that finds the element by its id. -/
def bound (state : State) (position : Nat) : Event → List Listener
  | .call (.bind button target sequence) =>
      if state.scene.finds button position then [⟨target, sequence⟩] else []
  | _ => []

variable (state : State)

end State

end ReportCharts.Page
