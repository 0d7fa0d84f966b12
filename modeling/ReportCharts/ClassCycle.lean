/-!
Class lists of elements, and the cycle of classes that a button steps an element through.
-/

namespace ReportCharts

namespace ClassList

def remove (token : String) (classes : List String) : List String :=
  classes.filter fun other => other != token

def add (token : String) (classes : List String) : List String :=
  if classes.contains token then classes else classes ++ [token]

@[simp]
theorem mem_remove {token other : String} {classes : List String} :
    other ∈ remove token classes ↔ other ∈ classes ∧ other ≠ token := by
  simp [remove]

@[simp]
theorem mem_add {token other : String} {classes : List String} :
    other ∈ add token classes ↔ other ∈ classes ∨ other = token := by
  unfold add
  split
  · next present =>
      simp only [List.contains_iff_mem] at present
      exact ⟨.inl, fun either => either.elim id fun same => same ▸ present⟩
  · simp

end ClassList

structure ClassToggle where
  out : Option String
  into : String
  deriving DecidableEq

namespace ClassToggle

/-- The first class of a sequence that is present, with its position. -/
def presentIn? (has : String → Bool) : (position : Nat) → List String → Option (Nat × String)
  | _, [] => none
  | position, token :: rest =>
      if has token then some (position, token) else presentIn? has (position + 1) rest

theorem presentIn?_eq_none_iff {has : String → Bool} {position : Nat} {sequence : List String} :
    presentIn? has position sequence = none ↔ ∀ token ∈ sequence, has token = false := by
  induction sequence generalizing position with
  | nil => simp [presentIn?]
  | cons token rest inductionHypothesis =>
      cases present : has token with
      | false => simp [presentIn?, present, inductionHypothesis]
      | true => simp [presentIn?, present]

/--
The next step of a cycle.

The first class of the sequence that is present gives way to the one after it, the last to the
first; without any, the first is added.
-/
def next? (has : String → Bool) (sequence : List String) : Option ClassToggle :=
  match sequence with
  | [] => none
  | first :: _ =>
      match presentIn? has 0 sequence with
      | none => some ⟨none, first⟩
      | some (position, token) =>
          some ⟨some token, sequence.getD ((position + 1) % sequence.length) first⟩

def apply (toggle : ClassToggle) (classes : List String) : List String :=
  ClassList.add toggle.into (toggle.out.elim classes (ClassList.remove · classes))

def step (sequence classes : List String) : List String :=
  match next? classes.contains sequence with
  | none => classes
  | some toggle => toggle.apply classes

end ClassToggle

end ReportCharts
