import ReportCharts.ClassCycle
import ReportCharts.Log
import ReportCharts.Navigation
import ReportCharts.Page.HostValue

/-!
The page's elements, and the calls that work on them: highlighting tabs and stepping class cycles.

The host of a page may refuse classes; a class list that refuses one does not change.
-/

namespace ReportCharts.Page

/-- What a click on a button does: step an element through a cycle of classes. -/
structure Listener where
  target : String
  sequence : List String
  deriving DecidableEq

structure Element where
  id : Option String
  address : Option String
  /--
  The selectors that the element matches, whatever its classes are. Selectors that depend on classes
  are left out, and so are those that are no selectors: the host throws for these.
  -/
  selectors : List String
  classes : List String
  listeners : List Listener
  /-- Elements out of the document are not found there, but may still be clicked. -/
  attached : Bool
  deriving DecidableEq

structure Scene where
  hasWindow : Bool
  hasDocument : Bool
  /-- The path of the page's address, or what is thrown when it is asked for. -/
  path : Except String String
  elements : List Element
  /-- Why class lists refuse a class, if they do. -/
  refusal : String → Option String := fun _ => none

namespace Scene

def removeClass (scene : Scene) (token : String) (classes : List String) :
    Except String (List String) :=
  match scene.refusal token with
  | some refusal => .error refusal
  | none => .ok (ClassList.remove token classes)

def addClass (scene : Scene) (token : String) (classes : List String) :
    Except String (List String) :=
  match scene.refusal token with
  | some refusal => .error refusal
  | none => .ok (ClassList.add token classes)

def checkDocument (scene : Scene) : Except String Unit :=
  if ¬scene.hasWindow then .error "No window object"
  else if ¬scene.hasDocument then .error "No document object"
  else .ok ()

def positionWhere? (test : Element → Bool) (scene : Scene) : Option Nat :=
  scene.elements.findIdx? test

def byId (scene : Scene) (id : String) : Except String Nat := do
  scene.checkDocument
  match scene.positionWhere? fun element => element.attached && element.id == some id with
  | some position => return position
  | none => throw ("Element not found: " ++ id)

def modifyAt (scene : Scene) (position : Nat) (change : Element → Element) : Scene :=
  { scene with elements := scene.elements.modify position change }

def setClasses (scene : Scene) (position : Nat) (classes : List String) : Scene :=
  scene.modifyAt position fun element => { element with classes := classes }

def classesAt (scene : Scene) (position : Nat) : List String :=
  ((scene.elements[position]?).map Element.classes).getD []

theorem eq_of_elements {first second : Scene}
    (frame : { first with elements := second.elements } = second)
    (same : ∀ position : Nat, first.elements[position]? = second.elements[position]?) :
    first = second := by
  rw [← frame, ← List.ext_getElem? same]

theorem getElem?_modifyAt (scene : Scene) (place position : Nat) (change : Element → Element) :
    (scene.modifyAt place change).elements[position]? =
      (scene.elements[position]?).map fun element =>
        if position = place then change element else element := by
  simp only [modifyAt, List.getElem?_modify, eq_comm]
  rfl

theorem getElem?_setClasses (scene : Scene) (place position : Nat) (classes : List String) :
    (scene.setClasses place classes).elements[position]? =
      (scene.elements[position]?).map fun element =>
        if position = place then { element with classes := classes } else element :=
  scene.getElem?_modifyAt place position _

theorem classesAt_of_getElem? {scene : Scene} {position : Nat} {element : Element}
    (here : scene.elements[position]? = some element) :
    scene.classesAt position = element.classes := by
  simp [classesAt, here]

/--
The result of a call on the scene, with the scene after it, which a failed call may have changed.
-/
structure Result (α : Type) where
  outcome : Except String α
  scene : Scene
  logs : List Log.Line

def selected (scene : Scene) (selector : String) : List Nat :=
  (List.range scene.elements.length).filter fun position =>
    (scene.elements[position]?).any fun element =>
      element.attached && element.selectors.contains selector

def addressAt (scene : Scene) (position : Nat) : String :=
  ((scene.elements[position]?).bind Element.address).getD ""

/-- Change the class lists at some positions in order, up to the first refusal. -/
def changeAll (change : List String → Except String (List String)) (scene : Scene) :
    List Nat → Except String Unit × Scene
  | [] => (.ok (), scene)
  | position :: rest =>
      match change (scene.classesAt position) with
      | .error refusal => (.error refusal, scene)
      | .ok classes => changeAll change (scene.setClasses position classes) rest

def highlightLine (count : Nat) (path : String) : Log.Line :=
  ⟨.debug, "Highlighted " ++ toString count ++ " nav tab(s) for " ++ path⟩

/-- Mark the tabs of a path as active and answer the first; the root page touches nothing. -/
def highlightTabs (scene : Scene) (path : String) (navigation : Navigation) :
    Result (Option Nat) :=
  if path = navigation.rootPath then ⟨.ok none, scene, []⟩
  else
    match scene.checkDocument with
    | .error refusal => ⟨.error refusal, scene, []⟩
    | .ok () =>
        let tabs := scene.selected navigation.tabSelector
        let found := navigation.matchingTabs path (tabs.map scene.addressAt)
        match scene.changeAll (scene.removeClass navigation.activeClass) tabs with
        | (.error refusal, scene) => ⟨.error refusal, scene, []⟩
        | (.ok (), scene) =>
            match scene.changeAll (scene.addClass navigation.activeClass)
                (found.map fun index => tabs.getD index 0) with
            | (.error refusal, scene) => ⟨.error refusal, scene, []⟩
            | (.ok (), scene) => ⟨.ok found.head?, scene, [highlightLine found.length path]⟩

def initTabs (scene : Scene) : Result (Option Nat) :=
  if ¬scene.hasWindow then ⟨.error "No window object", scene, []⟩
  else
    match scene.path with
    | .error refusal => ⟨.error refusal, scene, []⟩
    | .ok path => scene.highlightTabs path {}

/-- Step the element at a position; a class may go although its successor is refused. -/
def toggleAt (scene : Scene) (position : Nat) (sequence : List String) :
    Except String Unit × Scene :=
  let classes := scene.classesAt position
  match ClassToggle.next? classes.contains sequence with
  | none => (.ok (), scene)
  | some toggle =>
      match toggle.out.elim (.ok classes) (scene.removeClass · classes) with
      | .error refusal => (.error refusal, scene)
      | .ok classes =>
          match scene.addClass toggle.into classes with
          | .error refusal => (.error refusal, scene.setClasses position classes)
          | .ok classes => (.ok (), scene.setClasses position classes)

def toggle (scene : Scene) (id : String) (sequence : List String) : Except String Unit × Scene :=
  match scene.byId id with
  | .error refusal => (.error refusal, scene)
  | .ok position => scene.toggleAt position sequence

/-- Let every click of a button step an element; the element is looked up at the click. -/
def bind (scene : Scene) (button target : String) (sequence : List String) :
    Except String Unit × Scene :=
  match scene.byId button with
  | .error refusal => (.error refusal, scene)
  | .ok position =>
      (.ok (), scene.modifyAt position fun element =>
        { element with listeners := element.listeners ++ [⟨target, sequence⟩] })

def toggleFailure (refusal : String) : Log.Line :=
  ⟨.error, "Class toggle failed: " ++ (HostValue.string refusal).shown⟩

/-- Run listeners in order; a failed one is logged and does not keep the next from running. -/
def runListeners (scene : Scene) : List Listener → Scene × List Log.Line
  | [] => (scene, [])
  | listener :: rest =>
      match scene.toggle listener.target listener.sequence with
      | (.ok (), scene) => runListeners scene rest
      | (.error refusal, scene) =>
          let (scene, lines) := runListeners scene rest
          (scene, toggleFailure refusal :: lines)

/-- Click the first element with an id, in the document or not. -/
def click (scene : Scene) (id : String) : Scene × List Log.Line :=
  match scene.elements.find? fun element => element.id == some id with
  | none => (scene, [])
  | some element => scene.runListeners element.listeners

def detach (scene : Scene) (id : String) : Scene :=
  match scene.positionWhere? fun element => element.id == some id with
  | none => scene
  | some position => scene.modifyAt position fun element => { element with attached := false }

end Scene

end ReportCharts.Page
