import ReportCharts.Page.Calls
import ReportCharts.Proofs.Navigation.LeadingPath

/-!
Highlighting tabs, again and again.

A call first takes the active class from every tab and then gives it to those that match. What a page
looks like with the class taken from all tabs is therefore kept by every call, and together with the path
it determines the page after a call that answers: nothing is left of earlier calls. Where a class list
refuses the class it refuses to part with it too, so a call that throws has not changed anything.
-/

namespace ReportCharts

namespace ClassList

variable (token : String) (classes : List String)

theorem remove_remove : remove token (remove token classes) = remove token classes := by
  simp [remove, List.filter_filter]

theorem add_add : add token (add token classes) = add token classes := by
  have present : token ∈ add token classes := mem_add.mpr (.inr rfl)
  rw [add, if_pos (List.contains_iff_mem.mpr present)]

theorem remove_add : remove token (add token classes) = remove token classes := by
  unfold add
  split
  · rfl
  · simp [remove, List.filter_append]

end ClassList

namespace Navigation

theorem lt_of_mem_startingWith {leading : List Char} {start index : Nat} {addresses : List String}
    (member : index ∈ startingWith leading start addresses) : index < start + addresses.length := by
  obtain ⟨offset, address, rfl, here, -⟩ := mem_startingWith_iff.mp member
  obtain ⟨inside, -⟩ := List.getElem?_eq_some_iff.mp here
  exact Nat.add_lt_add_left inside start

theorem lt_of_mem_matchingTabs {navigation : Navigation} {path : String} {index : Nat}
    {addresses : List String} (member : index ∈ navigation.matchingTabs path addresses) :
    index < addresses.length := by
  unfold matchingTabs at member
  split at member
  · cases member
  · cases member
  · have bound := lt_of_mem_startingWith member
    omega

end Navigation

namespace Page

namespace Scene

def changed (scene : Scene) (change : List String → List String) (positions : List Nat) : Scene :=
  { scene with
    elements := scene.elements.mapIdx fun position element =>
      if position ∈ positions then { element with classes := change element.classes } else element }

variable (scene : Scene) (navigation : Navigation)

theorem getElem?_changed (change : List String → List String) (positions : List Nat)
    (position : Nat) :
    (scene.changed change positions).elements[position]? =
      (scene.elements[position]?).map fun element =>
        if position ∈ positions then { element with classes := change element.classes }
        else element := by
  simp [changed, List.getElem?_mapIdx]

theorem changed_nil (change : List String → List String) : scene.changed change [] = scene := by
  apply eq_of_elements rfl
  intro position
  rw [getElem?_changed]
  simp

theorem changeAll_of_accepts {change : List String → Except String (List String)}
    {total : List String → List String} (accepts : ∀ classes, change classes = .ok (total classes))
    (idempotent : ∀ classes, total (total classes) = total classes) (positions : List Nat) :
    scene.changeAll change positions = (.ok (), scene.changed total positions) := by
  induction positions generalizing scene with
  | nil => rw [changeAll, changed_nil]
  | cons place rest inductionHypothesis =>
      simp only [changeAll, accepts, inductionHypothesis, Prod.mk.injEq, true_and]
      apply eq_of_elements rfl
      intro position
      rw [getElem?_changed, getElem?_changed, getElem?_setClasses]
      cases here : scene.elements[position]? with
      | none => rfl
      | some element =>
          by_cases first : position = place
          · subst first
            rw [classesAt_of_getElem? here]
            by_cases again : position ∈ rest
            · simp [again, idempotent]
            · simp [again]
          · simp [first]

theorem changeAll_of_refuses {change : List String → Except String (List String)} {refusal : String}
    (refuses : ∀ classes, change classes = .error refusal) (position : Nat) (rest : List Nat) :
    scene.changeAll change (position :: rest) = (.error refusal, scene) := by
  simp only [changeAll, refuses]

def tabs : List Nat := scene.selected navigation.tabSelector

def addresses : List String := (scene.tabs navigation).map scene.addressAt

def marks (path : String) : List Nat :=
  (navigation.matchingTabs path (scene.addresses navigation)).map fun index =>
    (scene.tabs navigation).getD index 0

/-- The scene with the active class taken from every tab. -/
def cleared : Scene :=
  scene.changed (ClassList.remove navigation.activeClass) (scene.tabs navigation)

/-- The scene with the active class given to the tabs that match a path and to no other tab. -/
def marked (path : String) : Scene :=
  (scene.cleared navigation).changed (ClassList.add navigation.activeClass)
    (scene.marks navigation path)

/-- The document is there, and its class lists take the active class if there are tabs at all. -/
def Answers : Prop :=
  scene.checkDocument = .ok () ∧
    (scene.tabs navigation = [] ∨ scene.refusal navigation.activeClass = none)

theorem nodup_tabs : (scene.tabs navigation).Nodup := List.Pairwise.filter _ List.nodup_range

theorem mem_marks_iff (path : String) {index position : Nat}
    (tab : (scene.tabs navigation)[index]? = some position) :
    position ∈ scene.marks navigation path ↔
      index ∈ navigation.matchingTabs path (scene.addresses navigation) := by
  constructor
  · intro member
    obtain ⟨other, matching, same⟩ := List.mem_map.mp member
    have inside := Navigation.lt_of_mem_matchingTabs matching
    rw [addresses, List.length_map] at inside
    rw [List.getD_eq_getElem?_getD, List.getElem?_eq_getElem inside, Option.getD_some] at same
    have found : (scene.tabs navigation)[other]? = some position := by
      rw [List.getElem?_eq_getElem inside, same]
    obtain rfl := (List.getElem?_inj inside (scene.nodup_tabs navigation)).mp (found.trans tab.symm)
    exact matching
  · intro matching
    refine List.mem_map.mpr ⟨index, matching, ?_⟩
    rw [List.getD_eq_getElem?_getD, tab, Option.getD_some]

theorem mem_tabs_of_mem_marks {path : String} {position : Nat}
    (member : position ∈ scene.marks navigation path) : position ∈ scene.tabs navigation := by
  obtain ⟨index, matching, rfl⟩ := List.mem_map.mp member
  have inside := Navigation.lt_of_mem_matchingTabs matching
  rw [addresses, List.length_map] at inside
  rw [List.getD_eq_getElem?_getD, List.getElem?_eq_getElem inside, Option.getD_some]
  exact List.getElem_mem inside

section

variable (change : List String → List String) (positions : List Nat)

@[simp]
theorem length_changed : (scene.changed change positions).elements.length = scene.elements.length :=
  List.length_mapIdx

@[simp]
theorem tabs_changed : (scene.changed change positions).tabs navigation = scene.tabs navigation := by
  unfold tabs selected
  rw [length_changed]
  apply List.filter_congr
  intro position _
  rw [getElem?_changed]
  cases scene.elements[position]? with
  | none => rfl
  | some element => by_cases member : position ∈ positions <;> simp [member]

@[simp]
theorem addresses_changed :
    (scene.changed change positions).addresses navigation = scene.addresses navigation := by
  unfold addresses
  rw [tabs_changed]
  apply List.map_congr_left
  intro position _
  unfold addressAt
  rw [getElem?_changed]
  cases scene.elements[position]? with
  | none => rfl
  | some element => by_cases member : position ∈ positions <;> simp [member]

@[simp]
theorem answers_changed :
    (scene.changed change positions).Answers navigation ↔ scene.Answers navigation := by
  unfold Answers
  rw [tabs_changed]
  rfl

end

variable {scene navigation}

/-- Scenes that look the same without their active tabs have the same tabs to choose from. -/
theorem tabs_of_cleared {later : Scene} (same : later.cleared navigation = scene.cleared navigation) :
    later.tabs navigation = scene.tabs navigation := by
  rw [← tabs_changed later, ← tabs_changed scene]
  exact congrArg (tabs · navigation) same

theorem addresses_of_cleared {later : Scene}
    (same : later.cleared navigation = scene.cleared navigation) :
    later.addresses navigation = scene.addresses navigation := by
  rw [← addresses_changed later, ← addresses_changed scene]
  exact congrArg (addresses · navigation) same

theorem answers_of_cleared {later : Scene}
    (same : later.cleared navigation = scene.cleared navigation) :
    later.Answers navigation ↔ scene.Answers navigation := by
  rw [← answers_changed later, ← answers_changed scene]
  exact iff_of_eq (congrArg (Answers · navigation) same)

theorem marked_of_cleared {later : Scene}
    (same : later.cleared navigation = scene.cleared navigation) (path : String) :
    later.marked navigation path = scene.marked navigation path := by
  unfold marked marks
  rw [same, tabs_of_cleared same, addresses_of_cleared same]

theorem cleared_marked (path : String) :
    (scene.marked navigation path).cleared navigation = scene.cleared navigation := by
  apply eq_of_elements rfl
  intro position
  unfold marked cleared
  simp only [getElem?_changed, tabs_changed]
  cases scene.elements[position]? with
  | none => rfl
  | some element =>
      by_cases tab : position ∈ scene.tabs navigation
      · by_cases mark : position ∈ scene.marks navigation path
        · simp [tab, mark, ClassList.remove_add, ClassList.remove_remove]
        · simp [tab, mark, ClassList.remove_remove]
      · have unmarked : position ∉ scene.marks navigation path :=
          mt (scene.mem_tabs_of_mem_marks navigation) tab
        simp [tab, unmarked]

variable (scene navigation)

theorem changeAll_removeClass (accepts : scene.refusal navigation.activeClass = none)
    (positions : List Nat) :
    scene.changeAll (scene.removeClass navigation.activeClass) positions =
      (.ok (), scene.changed (ClassList.remove navigation.activeClass) positions) := by
  apply changeAll_of_accepts
  · intro classes
    simp only [removeClass, accepts]
  · exact ClassList.remove_remove _

theorem changeAll_addClass (accepts : scene.refusal navigation.activeClass = none)
    (positions : List Nat) :
    scene.changeAll (scene.addClass navigation.activeClass) positions =
      (.ok (), scene.changed (ClassList.add navigation.activeClass) positions) := by
  apply changeAll_of_accepts
  · intro classes
    simp only [addClass, accepts]
  · exact ClassList.add_add _

theorem matchingTabs_of_no_tabs (none : scene.tabs navigation = []) (path : String) :
    navigation.matchingTabs path (scene.addresses navigation) = [] := by
  apply List.eq_nil_iff_forall_not_mem.mpr
  intro index matching
  have inside := Navigation.lt_of_mem_matchingTabs matching
  simp [addresses, none] at inside

theorem highlightTabs_of_root {path : String} (root : path = navigation.rootPath) :
    scene.highlightTabs path navigation = ⟨.ok none, scene, []⟩ := by
  rw [highlightTabs, if_pos root]

theorem highlightTabs_of_answers {path : String} (elsewhere : path ≠ navigation.rootPath)
    (answers : scene.Answers navigation) :
    scene.highlightTabs path navigation =
      ⟨.ok (navigation.firstTab? path (scene.addresses navigation)), scene.marked navigation path,
        [highlightLine (navigation.matchingTabs path (scene.addresses navigation)).length path]⟩ := by
  obtain ⟨document, none | accepts⟩ := answers
  · have nothing := scene.matchingTabs_of_no_tabs navigation none path
    have same : scene.marked navigation path = scene := by
      simp only [marked, cleared, marks, none, nothing, List.map_nil, changed_nil]
    rw [same, Navigation.firstTab?, nothing]
    unfold addresses at nothing
    unfold tabs at none nothing
    rw [none] at nothing
    simp only [highlightTabs, if_neg elsewhere, document, none, nothing]
    rfl
  · simp only [highlightTabs, if_neg elsewhere, document,
      scene.changeAll_removeClass navigation accepts]
    rw [changeAll_addClass (scene.changed _ _) navigation accepts]
    rfl

theorem highlightTabs_of_lacking {path refusal : String} (elsewhere : path ≠ navigation.rootPath)
    (lacking : scene.checkDocument = .error refusal) :
    scene.highlightTabs path navigation = ⟨.error refusal, scene, []⟩ := by
  simp only [highlightTabs, if_neg elsewhere, lacking]

/-- The class is refused at the first tab that would have to part with it. -/
theorem highlightTabs_of_refused {path refusal : String} (elsewhere : path ≠ navigation.rootPath)
    (document : scene.checkDocument = .ok ()) (tabs : scene.tabs navigation ≠ [])
    (refused : scene.refusal navigation.activeClass = some refusal) :
    scene.highlightTabs path navigation = ⟨.error refusal, scene, []⟩ := by
  obtain ⟨position, rest, found⟩ := List.exists_cons_of_ne_nil tabs
  have refusesAll (classes : List String) :
      scene.removeClass navigation.activeClass classes = .error refusal := by
    simp only [removeClass, refused]
  have stops := scene.changeAll_of_refuses refusesAll position rest
  unfold Scene.tabs at found
  simp only [highlightTabs, if_neg elsewhere, document, found, stops]

theorem exists_highlightTabs_error {path : String} (elsewhere : path ≠ navigation.rootPath)
    (refuses : ¬scene.Answers navigation) :
    ∃ refusal, scene.highlightTabs path navigation = ⟨.error refusal, scene, []⟩ := by
  cases document : scene.checkDocument with
  | error refusal => exact ⟨refusal, scene.highlightTabs_of_lacking navigation elsewhere document⟩
  | ok present =>
      cases refused : scene.refusal navigation.activeClass with
      | none => exact absurd ⟨document, .inr refused⟩ refuses
      | some refusal =>
          have tabs : scene.tabs navigation ≠ [] := fun none => refuses ⟨document, .inl none⟩
          exact ⟨refusal, scene.highlightTabs_of_refused navigation elsewhere document tabs refused⟩

theorem cleared_highlightTabs (path : String) :
    (scene.highlightTabs path navigation).scene.cleared navigation = scene.cleared navigation := by
  by_cases root : path = navigation.rootPath
  · rw [scene.highlightTabs_of_root navigation root]
  · by_cases answers : scene.Answers navigation
    · rw [scene.highlightTabs_of_answers navigation root answers]
      exact cleared_marked path
    · obtain ⟨refusal, thrown⟩ := scene.exists_highlightTabs_error navigation root answers
      rw [thrown]

/-- How the tabs of a scene are marked for a path in a later one. -/
structure MarkedIn (later : Scene) (path : String) : Prop where
  /-- A tab has the active class exactly if it matches, and differs in nothing else. -/
  tabs : ∀ index position, (scene.tabs navigation)[index]? = some position →
    ∃ element classes, scene.elements[position]? = some element ∧
      later.elements[position]? = some { element with classes := classes } ∧
      (navigation.activeClass ∈ classes ↔
        index ∈ navigation.matchingTabs path (scene.addresses navigation)) ∧
      ClassList.remove navigation.activeClass classes =
        ClassList.remove navigation.activeClass element.classes
  others : ∀ position, position ∉ scene.tabs navigation →
    later.elements[position]? = scene.elements[position]?

theorem markedIn_marked (path : String) :
    scene.MarkedIn navigation (scene.marked navigation path) path := by
  constructor
  · intro index position tab
    have member := List.mem_of_getElem? tab
    have inside : position < scene.elements.length :=
      List.mem_range.mp (List.mem_filter.mp member).1
    obtain ⟨element, here⟩ : ∃ element, scene.elements[position]? = some element :=
      ⟨_, List.getElem?_eq_getElem inside⟩
    have mark := scene.mem_marks_iff navigation path tab
    unfold marked cleared
    simp only [getElem?_changed, here, member, if_true, Option.map_some]
    by_cases matching : index ∈ navigation.matchingTabs path (scene.addresses navigation)
    · refine ⟨element, _, rfl, by rw [if_pos (mark.mpr matching)], ?_, ?_⟩
      · simp [matching]
      · rw [ClassList.remove_add, ClassList.remove_remove]
    · refine ⟨element, _, rfl, by rw [if_neg (mt mark.mp matching)], ?_, ?_⟩
      · simp [matching]
      · rw [ClassList.remove_remove]
  · intro position outside
    have unmarked : position ∉ scene.marks navigation path :=
      mt (scene.mem_tabs_of_mem_marks navigation) outside
    unfold marked cleared
    simp [getElem?_changed, outside, unmarked]

end Scene

namespace State

variable (words : Wording)

def highlight (page : State) (navigation : Navigation) (path : String) : Reply :=
  page.run words (.highlightTabs path navigation)

/-- The page after its tabs were highlighted for some paths, one after another. -/
def browsed (page : State) (navigation : Navigation) (paths : List String) : State :=
  paths.foldl (fun page path => (page.highlight words navigation path).next) page

theorem cleared_browsed (page : State) (navigation : Navigation) (paths : List String) :
    (page.browsed words navigation paths).scene.cleared navigation = page.scene.cleared navigation := by
  unfold browsed
  induction paths generalizing page with
  | nil => rfl
  | cons path rest inductionHypothesis =>
      rw [List.foldl_cons, inductionHypothesis]
      exact page.scene.cleared_highlightTabs navigation path

section

variable {page : State} {navigation : Navigation} {path : String}

theorem highlight_of_root (root : path = navigation.rootPath) :
    page.highlight words navigation path = ⟨.ok (.tab none), [], none, page⟩ := by
  simp only [highlight, run, page.scene.highlightTabs_of_root navigation root]
  rfl

/-- The answer and the page after it may be told from any page that differs in active tabs alone. -/
theorem highlight_of_answers {before : State} (elsewhere : path ≠ navigation.rootPath)
    (answers : page.scene.Answers navigation)
    (same : before.scene.cleared navigation = page.scene.cleared navigation) :
    (before.highlight words navigation path).outcome =
        .ok (.tab (navigation.firstTab? path (page.scene.addresses navigation))) ∧
      (before.highlight words navigation path).next =
        before.withScene (page.scene.marked navigation path) := by
  have answersBefore := (Scene.answers_of_cleared same).mpr answers
  simp only [highlight, run,
    before.scene.highlightTabs_of_answers navigation elsewhere answersBefore]
  rw [Scene.addresses_of_cleared same, Scene.marked_of_cleared same]
  exact ⟨rfl, rfl⟩

theorem exists_highlight_error (elsewhere : path ≠ navigation.rootPath)
    (refuses : ¬page.scene.Answers navigation) :
    ∃ refusal, page.highlight words navigation path = ⟨.error refusal, [], none, page⟩ := by
  obtain ⟨refusal, thrown⟩ := page.scene.exists_highlightTabs_error navigation elsewhere refuses
  refine ⟨refusal, ?_⟩
  simp only [highlight, run, thrown]
  rfl

end

/--
What the page can rely on when its tabs are highlighted for a path; `before` is what earlier calls have
made of the page.
-/
structure Highlights (page before : State) (navigation : Navigation) (path : String) : Prop where
  root : path = navigation.rootPath →
    (before.highlight words navigation path).outcome = .ok (.tab none) ∧
      (before.highlight words navigation path).next = before
  thrown : ∀ text, (before.highlight words navigation path).outcome = .error text →
    (before.highlight words navigation path).next = before
  answers : (∃ answer, (before.highlight words navigation path).outcome = .ok answer) ↔
    path = navigation.rootPath ∨ page.scene.Answers navigation
  /-- The earlier calls have left no trace: all is said of the page as it was before them. -/
  answered : path ≠ navigation.rootPath →
    ∀ answer, (before.highlight words navigation path).outcome = .ok answer →
      answer = .tab (navigation.firstTab? path (page.scene.addresses navigation)) ∧
        page.scene.MarkedIn navigation (before.highlight words navigation path).next.scene path
  repeated : ((before.highlight words navigation path).next.highlight words navigation path).outcome =
      (before.highlight words navigation path).outcome ∧
    ((before.highlight words navigation path).next.highlight words navigation path).next =
      (before.highlight words navigation path).next

variable {page before : State} {navigation : Navigation} {path : String}

theorem Highlights.of_root (root : path = navigation.rootPath) :
    Highlights words page before navigation path := by
  have ran : before.highlight words navigation path = _ := highlight_of_root words root
  constructor
  · intro _
    rw [ran]
    exact ⟨rfl, rfl⟩
  · intro text _
    rw [ran]
  · rw [ran]
    exact iff_of_true ⟨_, rfl⟩ (.inl root)
  · intro elsewhere
    exact absurd root elsewhere
  · rw [ran, ran]
    exact ⟨rfl, rfl⟩

theorem Highlights.of_refuses (elsewhere : path ≠ navigation.rootPath)
    (refuses : ¬page.scene.Answers navigation)
    (same : before.scene.cleared navigation = page.scene.cleared navigation) :
    Highlights words page before navigation path := by
  have refusesBefore := mt (Scene.answers_of_cleared same).mp refuses
  obtain ⟨refusal, ran⟩ := exists_highlight_error words elsewhere refusesBefore
  constructor
  · intro root
    exact absurd root elsewhere
  · intro text _
    rw [ran]
  · rw [ran]
    refine iff_of_false ?_ (not_or_intro elsewhere refuses)
    rintro ⟨answer, given⟩
    cases given
  · intro _ answer given
    rw [ran] at given
    cases given
  · rw [ran, ran]
    exact ⟨rfl, rfl⟩

theorem Highlights.of_answers (elsewhere : path ≠ navigation.rootPath)
    (answers : page.scene.Answers navigation)
    (same : before.scene.cleared navigation = page.scene.cleared navigation) :
    Highlights words page before navigation path := by
  obtain ⟨outcome, next⟩ := highlight_of_answers words elsewhere answers same
  have sameNext : (before.highlight words navigation path).next.scene.cleared navigation =
      page.scene.cleared navigation := by
    rw [next]
    exact Scene.cleared_marked path
  obtain ⟨again, after⟩ := highlight_of_answers words elsewhere answers sameNext
  constructor
  · intro root
    exact absurd root elsewhere
  · intro text failed
    rw [outcome] at failed
    cases failed
  · exact iff_of_true ⟨_, outcome⟩ (.inr answers)
  · intro _ answer given
    rw [outcome] at given
    rw [next]
    exact ⟨(Except.ok.inj given).symm, page.scene.markedIn_marked navigation path⟩
  · rw [again, outcome, after, next]
    exact ⟨rfl, rfl⟩

/--
However often the tabs of a page have been highlighted, for whatever paths: a call that answers marks
exactly the tabs that match its own path, touches nothing else and names the first of them, and a call
for the root path or one that throws changes nothing.
-/
theorem highlights_browsed (page : State) (navigation : Navigation) (history : List String)
    (path : String) :
    Highlights words page (page.browsed words navigation history) navigation path := by
  have same := page.cleared_browsed words navigation history
  by_cases root : path = navigation.rootPath
  · exact .of_root words root
  · by_cases answers : page.scene.Answers navigation
    · exact .of_answers words root answers same
    · exact .of_refuses words root answers same

end State

end Page

end ReportCharts
