import ReportCharts.Proofs.Page.Buttons
import ReportCharts.Proofs.Text.Decimal
import ReportCharts.Schema.Envelope

/-!
How the calls fail that work on the page's elements.

Such a call throws what stops it as it is: a text about what is missing, or the text that the host throws.
No text of its own is the text of an envelope. A script that reads an envelope from whatever it catches
finds one in what a drawing call throws and none here.
-/

namespace ReportCharts

open Json

/-- No JSON value begins with a capital letter. -/
theorem Json.Document.ofText_of_isUpper (rounding : Binary64.Rounding) {c : Char}
    (capital : c.isUpper = true) (rest : List Char) :
    Document.ofText rounding (c :: rest) = (.garbled c .noValue .noValue, []) := by
  have other (d : Char) (small : d.isUpper = false) : c ≠ d := Text.ne_of_test capital d small
  have visible : skipBlanks (c :: rest) = c :: rest := by
    simp [skipBlanks, isBlank, other ' ' rfl, other '\t' rfl, other '\n' rfl, other '\r' rfl]
  have noDigit : c.isDigit = false := by
    rw [← Bool.not_eq_true, Char.isDigit_iff_toNat]
    rintro ⟨-, low⟩
    obtain ⟨least, -⟩ : c.val ≥ 'A'.val ∧ c.val ≤ 'Z'.val := of_decide_eq_true capital
    have high : 'A'.toNat ≤ c.toNat := least
    exact absurd (Nat.le_trans high low) (by decide)
  rw [ofText, readValue.eq_def]
  simp [visible, other 'n' rfl, other 't' rfl, other 'f' rfl, other '"' rfl, other '[' rfl,
    other '\x7b' rfl, other '-' rfl, noDigit]

def Capital (text : String) : Prop := ∃ c rest, text.toList = c :: rest ∧ c.isUpper = true

theorem Envelope.ofText_of_capital {text : String} (capital : Capital text) :
    Envelope.shape.ofText text = .error .noValue := by
  obtain ⟨c, rest, begins, upper⟩ := capital
  rw [Shape.ofText, begins, Document.ofText_of_isUpper .stepwise upper]
  rfl

namespace Page

/-- The calls that work on the page's elements for scripts. -/
inductive Helper where
  | initTabs
  | toggle (id : String) (sequence : List String)
  | bind (button target : String) (sequence : List String)

def Helper.call : Helper → Call
  | .initTabs => .initTabs
  | .toggle id sequence => .toggle id sequence
  | .bind button target sequence => .bind button target sequence

namespace Scene

variable (scene : Scene)

/-- A part of the page is missing on the way to its document, and a text says which. -/
inductive Lacks : String → Prop
  | window (absent : scene.hasWindow = false) : Lacks "No window object"
  | document (present : scene.hasWindow = true) (absent : scene.hasDocument = false) :
      Lacks "No document object"

def HasId (id : String) : Prop :=
  ∃ element ∈ scene.elements, element.attached = true ∧ element.id = some id

inductive Misses (id : String) : String → Prop
  | page {text : String} (lacks : scene.Lacks text) : Misses id text
  | element (window : scene.hasWindow = true) (document : scene.hasDocument = true)
      (absent : ¬scene.HasId id) : Misses id ("Element not found: " ++ id)

/-- The host refuses a class of a step, and is asked about the one to take before the one to give. -/
def RefusesStep (position : Nat) (sequence : List String) (text : String) : Prop :=
  ∃ toggle, ClassToggle.next? (scene.classesAt position).contains sequence = some toggle ∧
    (toggle.out.toList ++ [toggle.into]).findSome? scene.refusal = some text

/-- The host refuses the class of active tabs, and there are tabs. -/
structure RefusesTabs (text : String) : Prop where
  window : scene.hasWindow = true
  document : scene.hasDocument = true
  tabs : scene.tabs {} ≠ []
  refused : scene.refusal ({} : Navigation).activeClass = some text

/-- What stops a call, with the text that is thrown for it. -/
inductive Stops : Helper → String → Prop
  | window (absent : scene.hasWindow = false) : Stops .initTabs "No window object"
  | path {text : String} (window : scene.hasWindow = true) (unread : scene.path = .error text) :
      Stops .initTabs text
  | page {path text : String} (read : scene.path = .ok path)
      (elsewhere : path ≠ ({} : Navigation).rootPath) (lacks : scene.Lacks text) :
      Stops .initTabs text
  | tabs {path text : String} (read : scene.path = .ok path)
      (elsewhere : path ≠ ({} : Navigation).rootPath) (refuses : scene.RefusesTabs text) :
      Stops .initTabs text
  | target {id text : String} {sequence : List String} (misses : scene.Misses id text) :
      Stops (.toggle id sequence) text
  | step {id text : String} {sequence : List String} {position : Nat}
      (found : scene.finds id position = true)
      (refuses : scene.RefusesStep position sequence text) : Stops (.toggle id sequence) text
  | button {button target text : String} {sequence : List String}
      (misses : scene.Misses button text) : Stops (.bind button target sequence) text

theorem checkDocument_eq_error_iff {text : String} :
    scene.checkDocument = .error text ↔ scene.Lacks text := by
  unfold checkDocument
  constructor
  · intro failed
    split at failed
    · next absent =>
        cases failed
        exact .window (by simpa using absent)
    split at failed
    · next present absent =>
        cases failed
        exact .document (by simpa using present) (by simpa using absent)
    · cases failed
  · intro lacks
    cases lacks with
    | window absent => simp [absent]
    | document present absent => simp [present, absent]

theorem checkDocument_eq_ok_iff :
    scene.checkDocument = .ok () ↔ scene.hasWindow = true ∧ scene.hasDocument = true := by
  cases window : scene.hasWindow <;> cases document : scene.hasDocument <;>
    simp [checkDocument, window, document]

theorem positionWhere?_eq_none_iff {id : String} :
    (scene.positionWhere? fun element => element.attached && element.id == some id) = none ↔
      ¬scene.HasId id := by
  simp [positionWhere?, HasId, List.findIdx?_eq_none_iff]

theorem byId_eq_error_iff {id text : String} :
    scene.byId id = .error text ↔ scene.Misses id text := by
  unfold byId
  constructor
  · intro failed
    cases checked : scene.checkDocument with
    | error refusal =>
        rw [checked] at failed
        cases failed
        exact .page (scene.checkDocument_eq_error_iff.mp checked)
    | ok present =>
        rw [checked] at failed
        cases found : scene.positionWhere? fun element =>
            element.attached && element.id == some id with
        | some position =>
            rw [found] at failed
            cases failed
        | none =>
            rw [found] at failed
            cases failed
            obtain ⟨window, document⟩ := scene.checkDocument_eq_ok_iff.mp checked
            exact .element window document (scene.positionWhere?_eq_none_iff.mp found)
  · intro misses
    cases misses with
    | page lacks =>
        rw [scene.checkDocument_eq_error_iff.mpr lacks]
        rfl
    | element window document absent =>
        rw [scene.checkDocument_eq_ok_iff.mpr ⟨window, document⟩,
          scene.positionWhere?_eq_none_iff.mpr absent]
        rfl

theorem toggleAt_eq_error_iff {position : Nat} {sequence : List String} {text : String} :
    (scene.toggleAt position sequence).1 = .error text ↔
      scene.RefusesStep position sequence text := by
  unfold RefusesStep
  cases chosen : ClassToggle.next? (scene.classesAt position).contains sequence with
  | none => simp [toggleAt, chosen]
  | some toggle =>
      obtain ⟨out, into⟩ := toggle
      -- without a class to take, the one to give is the only one asked about
      cases out with
      | none => cases given : scene.refusal into <;> simp [toggleAt, chosen, addClass, given]
      | some token =>
          cases taken : scene.refusal token with
          | some refusal => simp [toggleAt, chosen, removeClass, taken]
          | none =>
              cases given : scene.refusal into <;>
                simp [toggleAt, chosen, removeClass, addClass, taken, given]

theorem highlightTabs_eq_error_iff {path text : String}
    (elsewhere : path ≠ ({} : Navigation).rootPath) :
    (scene.highlightTabs path {}).outcome = .error text ↔
      scene.Lacks text ∨ scene.RefusesTabs text := by
  constructor
  · intro failed
    cases checked : scene.checkDocument with
    | error refusal =>
        rw [scene.highlightTabs_of_lacking {} elsewhere checked] at failed
        cases failed
        exact .inl (scene.checkDocument_eq_error_iff.mp checked)
    | ok present =>
        by_cases answers : scene.Answers {}
        · rw [scene.highlightTabs_of_answers {} elsewhere answers] at failed
          cases failed
        · have tabs : scene.tabs {} ≠ [] := fun none => answers ⟨checked, .inl none⟩
          obtain ⟨refusal, refused⟩ := Option.ne_none_iff_exists'.mp fun none =>
            answers ⟨checked, .inr none⟩
          obtain ⟨window, document⟩ := scene.checkDocument_eq_ok_iff.mp checked
          rw [scene.highlightTabs_of_refused {} elsewhere checked tabs refused] at failed
          cases failed
          exact .inr ⟨window, document, tabs, refused⟩
  · rintro (lacks | ⟨window, document, tabs, refused⟩)
    · rw [scene.highlightTabs_of_lacking {} elsewhere (scene.checkDocument_eq_error_iff.mpr lacks)]
    · rw [scene.highlightTabs_of_refused {} elsewhere
        (scene.checkDocument_eq_ok_iff.mpr ⟨window, document⟩) tabs refused]

variable {scene}

theorem initTabs_eq_error_iff {text : String} :
    scene.initTabs.outcome = .error text ↔ scene.Stops .initTabs text := by
  unfold initTabs
  constructor
  · intro failed
    split at failed
    · next absent =>
        cases failed
        exact .window (by simpa using absent)
    · next present =>
        split at failed
        · next refusal unread =>
            cases failed
            exact .path (by simpa using present) unread
        · next path read =>
            by_cases root : path = ({} : Navigation).rootPath
            · rw [scene.highlightTabs_of_root {} root] at failed
              cases failed
            · rcases (scene.highlightTabs_eq_error_iff root).mp failed with lacks | refuses
              · exact .page read root lacks
              · exact .tabs read root refuses
  · intro stops
    cases stops with
    | window absent => simp [absent]
    | path window unread => simp [window, unread]
    | page read elsewhere lacks =>
        cases lacks with
        | window absent => simp [absent]
        | document present absent =>
            rw [if_neg (by simp [present]), read]
            exact (scene.highlightTabs_eq_error_iff elsewhere).mpr (.inl (.document present absent))
    | tabs read elsewhere refuses =>
        rw [if_neg (by simp [refuses.window]), read]
        exact (scene.highlightTabs_eq_error_iff elsewhere).mpr (.inr refuses)

theorem toggle_eq_error_iff {id text : String} {sequence : List String} :
    (scene.toggle id sequence).1 = .error text ↔ scene.Stops (.toggle id sequence) text := by
  unfold toggle
  constructor
  · intro failed
    cases found : scene.byId id with
    | error refusal =>
        rw [found] at failed
        cases failed
        exact .target (scene.byId_eq_error_iff.mp found)
    | ok position =>
        rw [found] at failed
        have finds : scene.finds id position = true := by simp [Scene.finds, found]
        exact .step finds (scene.toggleAt_eq_error_iff.mp failed)
  · intro stops
    cases stops with
    | target misses => rw [scene.byId_eq_error_iff.mpr misses]
    | @step _ _ _ position finds refuses =>
        unfold Scene.finds at finds
        cases found : scene.byId id with
        | error refusal => simp [found] at finds
        | ok place =>
            obtain rfl : place = position := by simpa [found] using finds
            exact scene.toggleAt_eq_error_iff.mpr refuses

theorem bind_eq_error_iff {button target text : String} {sequence : List String} :
    (scene.bind button target sequence).1 = .error text ↔
      scene.Stops (.bind button target sequence) text := by
  unfold bind
  constructor
  · intro failed
    cases found : scene.byId button with
    | error refusal =>
        rw [found] at failed
        cases failed
        exact .button (scene.byId_eq_error_iff.mp found)
    | ok position =>
        rw [found] at failed
        cases failed
  · rintro ⟨⟩
    next misses => rw [scene.byId_eq_error_iff.mpr misses]

/-- The host throws a text when it is asked for the path or for a class. -/
def HostThrows (scene : Scene) (text : String) : Prop :=
  scene.path = .error text ∨ ∃ token, scene.refusal token = some text

theorem Stops.bare {helper : Helper} {text : String} (stops : scene.Stops helper text) :
    scene.HostThrows text ∨ Capital text := by
  have lacking {text : String} (lacks : scene.Lacks text) :
      Capital text := by
    cases lacks with
    | window absent => exact ⟨'N', _, rfl, rfl⟩
    | document present absent => exact ⟨'N', _, rfl, rfl⟩
  have missing {id text : String} (misses : scene.Misses id text) :
      Capital text := by
    cases misses with
    | page lacks => exact lacking lacks
    | element window document absent =>
        exact ⟨'E', "lement not found: ".toList ++ id.toList, String.toList_append, rfl⟩
  cases stops with
  | window absent => exact .inr ⟨'N', _, rfl, rfl⟩
  | path window unread => exact .inl (.inl unread)
  | page read elsewhere lacks => exact .inr (lacking lacks)
  | tabs read elsewhere refuses => exact .inl (.inr ⟨_, refuses.refused⟩)
  | target misses | button misses => exact .inr (missing misses)
  | step found refuses =>
      obtain ⟨toggle, -, refused⟩ := refuses
      obtain ⟨token, -, refused⟩ := List.exists_of_findSome?_eq_some refused
      exact .inl (.inr ⟨token, refused⟩)

end Scene

namespace State

theorem run_helper_eq_error_iff (words : Wording) (state : State) (helper : Helper) {text : String} :
    (state.run words helper.call).outcome = .error text ↔ state.scene.Stops helper text := by
  have mapped {α β : Type} (change : α → β) (outcome : Except String α) :
      outcome.map change = .error text ↔ outcome = .error text := by
    cases outcome <;> simp [Except.map]
  cases helper with
  | initTabs => exact (mapped _ _).trans Scene.initTabs_eq_error_iff
  | toggle id sequence => exact (mapped _ _).trans Scene.toggle_eq_error_iff
  | bind button target sequence => exact (mapped _ _).trans Scene.bind_eq_error_iff

structure ThrowsBare (words : Wording) (state : State) (helper : Helper) : Prop where
  stopped : ∀ text, (state.run words helper.call).outcome = .error text ↔ state.scene.Stops helper text
  bare : ∀ text, state.scene.Stops helper text → (state.scene.HostThrows text → Capital text) →
    ∀ envelope, Envelope.shape.ofText text ≠ .ok envelope

/--
A call on the page's elements throws exactly when something stops it, and then it throws the text about
that. As long as what the host throws begins with a capital letter, it is never the text of an envelope.
-/
theorem throwsBare (words : Wording) (state : State) (helper : Helper) :
    state.ThrowsBare words helper where
  stopped _ := state.run_helper_eq_error_iff words helper
  bare text stops own envelope read := by
    have capital : Capital text := stops.bare.elim own id
    rw [Envelope.ofText_of_capital capital] at read
    cases read

/-- A toggle of an element that is not there throws a text, and no envelope can be read from it. -/
theorem missing_element_thrown_bare :
    let state : State := ⟨⟨true, true, .ok "/", [], fun _ => none⟩, none, 0⟩
    (state.run default (.toggle "ghost" ["red"])).outcome = .error "Element not found: ghost" ∧
      ∀ envelope, Envelope.shape.ofText "Element not found: ghost" ≠ .ok envelope := by
  intro state
  refine ⟨rfl, ?_⟩
  intro envelope read
  have unread : Envelope.shape.ofText "Element not found: ghost" = .error .noValue :=
    Envelope.ofText_of_capital ⟨'E', _, rfl, rfl⟩
  rw [unread] at read
  cases read

end State

end Page

end ReportCharts
