import ReportCharts.Envelope

/-!
Envelopes that are made up step by step.

A step gives a context or fills in the metadata of the context there is. After any sequence of steps the
last context stands, with the last metadata given behind it. What was given before a context is lost, and
nothing but the context ever changes.
-/

namespace ReportCharts.Envelope

inductive Step where
  | context (component operation : String)
  | metadata (value : Json.Value)

namespace Step

def apply (envelope : Envelope) : Step → Envelope
  | .context component operation => envelope.withContext component operation
  | .metadata value => envelope.withMetadata value

def GivesContext : Step → Prop
  | .context _ _ => True
  | .metadata _ => False

def metadata? : Step → Option Json.Value
  | .context _ _ => none
  | .metadata value => some value

@[simp]
theorem givesContext_context (component operation : String) :
    (context component operation).GivesContext := trivial

@[simp]
theorem not_givesContext_metadata (value : Json.Value) : ¬(metadata value).GivesContext := id

@[simp]
theorem metadata?_metadata (value : Json.Value) : (metadata value).metadata? = some value := rfl

end Step

/-- The metadata that stands after some steps, none of which gives a context. -/
def lastMetadata (before : Json.Value) (steps : List Step) : Json.Value :=
  (steps.filterMap Step.metadata?).getLast?.getD before

@[simp]
theorem lastMetadata_nil (before : Json.Value) : lastMetadata before [] = before := rfl

@[simp]
theorem lastMetadata_cons (before value : Json.Value) (steps : List Step) :
    lastMetadata before (.metadata value :: steps) = lastMetadata value steps := by
  simp [lastMetadata, List.getLast?_cons]

def build (envelope : Envelope) (steps : List Step) : Envelope := steps.foldl Step.apply envelope

@[simp]
theorem build_nil (envelope : Envelope) : envelope.build [] = envelope := rfl

@[simp]
theorem build_cons (envelope : Envelope) (step : Step) (steps : List Step) :
    envelope.build (step :: steps) = (step.apply envelope).build steps := rfl

theorem build_append (envelope : Envelope) (first second : List Step) :
    envelope.build (first ++ second) = (envelope.build first).build second :=
  List.foldl_append

/-- The part of an envelope that no context has to do with. -/
def core (envelope : Envelope) : Bool × ChartFault × UInt64 :=
  (envelope.success, envelope.fault, envelope.timestamp)

theorem core_apply (envelope : Envelope) (step : Step) :
    (step.apply envelope).core = envelope.core := by
  cases step with
  | context component operation => rfl
  | metadata value => rfl

theorem core_build (envelope : Envelope) (steps : List Step) :
    (envelope.build steps).core = envelope.core := by
  induction steps generalizing envelope with
  | nil => rfl
  | cons step steps inductionHypothesis =>
      rw [build_cons, inductionHypothesis, core_apply]

/-- Steps without a context fill in the one there is, if there is one. -/
theorem context_build {steps : List Step} (noContext : ∀ step ∈ steps, ¬step.GivesContext)
    (envelope : Envelope) :
    (envelope.build steps).context = envelope.context.map fun context =>
      { context with metadata := lastMetadata context.metadata steps } := by
  induction steps generalizing envelope with
  | nil => simp
  | cons step steps inductionHypothesis =>
      obtain ⟨first, others⟩ := List.forall_mem_cons.mp noContext
      cases step with
      | context component operation => exact absurd trivial first
      | metadata value =>
          rw [build_cons, inductionHypothesis others]
          simp [Step.apply, withMetadata, Function.comp_def]

theorem build_metadata {envelope : Envelope} (bare : envelope.context = none)
    (values : List Json.Value) : envelope.build (values.map .metadata) = envelope := by
  induction values with
  | nil => rfl
  | cons value values inductionHypothesis =>
      have unchanged : envelope.withMetadata value = envelope := by
        unfold withMetadata
        rw [bare, Option.map_none, ← bare]
      rw [List.map_cons, build_cons, Step.apply, unchanged, inductionHypothesis]

theorem exists_last_context (steps : List Step) :
    (∀ step ∈ steps, ¬step.GivesContext) ∨
      ∃ before component operation after,
        steps = before ++ .context component operation :: after ∧
          ∀ step ∈ after, ¬step.GivesContext := by
  induction steps with
  | nil => exact .inl nofun
  | cons step steps inductionHypothesis =>
      rcases inductionHypothesis with noContext | ⟨before, component, operation, after, rfl, noContext⟩
      · cases step with
        | context component operation => exact .inr ⟨[], component, operation, steps, rfl, noContext⟩
        | metadata value => exact .inl (List.forall_mem_cons.mpr ⟨id, noContext⟩)
      · exact .inr ⟨step :: before, component, operation, after, rfl, noContext⟩

structure Latest (steps : List Step) (context : Option Context) : Prop where
  absent : context = none ↔ ∀ step ∈ steps, ¬step.GivesContext
  present : ∀ before component operation after,
    steps = before ++ .context component operation :: after →
      (∀ step ∈ after, ¬step.GivesContext) →
        context = some ⟨component, operation, lastMetadata .null after⟩

theorem context_build_last {after : List Step} (noContext : ∀ step ∈ after, ¬step.GivesContext)
    (envelope : Envelope) (before : List Step) (component operation : String) :
    (envelope.build (before ++ .context component operation :: after)).context =
      some ⟨component, operation, lastMetadata .null after⟩ := by
  rw [build_append, build_cons, context_build noContext]
  rfl

theorem latest_build {envelope : Envelope} (bare : envelope.context = none) (steps : List Step) :
    Latest steps (envelope.build steps).context where
  absent := by
    constructor
    · intro absent
      rcases exists_last_context steps with noContext | ⟨before, component, operation, after, rfl, noContext⟩
      · exact noContext
      · rw [context_build_last noContext] at absent
        cases absent
    · intro noContext
      rw [context_build noContext, bare, Option.map_none]
  present := by
    rintro before component operation after rfl noContext
    exact context_build_last noContext envelope before component operation

/--
A fault in an envelope keeps its time and is never told as a success, whatever steps the envelope goes
through. Its context is the last one given, with the last metadata given behind that one, and metadata
from before the first context might as well not have been given.
-/
theorem build_keeps_latest (fault : ChartFault) (timestamp : UInt64) (steps : List Step) :
    let built := (Envelope.of fault timestamp).build steps
    built.success = false ∧ built.fault = fault ∧ built.timestamp = timestamp ∧
      Latest steps built.context ∧
      ∀ (values : List Json.Value) (rest : List Step),
        steps = values.map .metadata ++ rest →
          built = (Envelope.of fault timestamp).build rest := by
  intro built
  have same : built.core = (false, fault, timestamp) := core_build _ steps
  obtain ⟨success, kept⟩ := Prod.mk.inj same
  obtain ⟨sameFault, sameTime⟩ := Prod.mk.inj kept
  refine ⟨success, sameFault, sameTime, latest_build (context_of fault timestamp) steps, ?_⟩
  rintro values rest rfl
  change (Envelope.of fault timestamp).build (values.map .metadata ++ rest) = _
  rw [build_append, build_metadata (context_of fault timestamp)]

example (fault : ChartFault) (timestamp : UInt64) (early lost kept : Json.Value) :
    ((of fault timestamp).build [.metadata early, .context "Tabs" "read", .metadata lost,
      .context "ChartAdapter" "render", .metadata kept]).context =
        some ⟨"ChartAdapter", "render", kept⟩ := rfl

end ReportCharts.Envelope
