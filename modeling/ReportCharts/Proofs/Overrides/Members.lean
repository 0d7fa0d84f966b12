import ReportCharts.OverrideEntries
import ReportCharts.OverrideText
import ReportCharts.Proofs.Json.Collected
import ReportCharts.Proofs.Json.Spelling

/-!
Overrides that are written as JSON objects, member by member.

Nothing but the members with the names of options counts, whatever their order, and of these null counts
for nothing. A member whose key holds no text is not passed over, though: keys are read before they are
known to be no names of options.
-/

namespace ReportCharts

open Json Json.Grammar

/-- The key of a member holds a text. -/
def Json.Grammar.Member.Named (member : Member Spelling) (key : String) : Prop :=
  Document.Spells (lexemesOf member.key) key.toList

theorem Json.Grammar.Member.Named.entry {member : Member Spelling} {key : String}
    (named : member.Named key) (rounding : Binary64.Rounding) :
    member.entry rounding = (.ok key, member.value.document rounding) := by
  rw [Member.entry, held_eq_ok_iff.mpr named]

namespace Overrides

/-- Members in another order, or with members put in or left out whose keys name no option. -/
inductive Rearranged : List (Member Spelling) → List (Member Spelling) → Prop
  | reordered {first second : List (Member Spelling)} (order : first.Perm second) :
      Rearranged first second
  | inserted (before after : List (Member Spelling)) {member : Member Spelling} {key : String}
      (named : member.Named key) (unasked : key ∉ names) :
      Rearranged (before ++ after) (before ++ member :: after)
  | symm {first second : List (Member Spelling)} (same : Rearranged first second) :
      Rearranged second first
  | trans {first second third : List (Member Spelling)} (same : Rearranged first second)
      (more : Rearranged second third) : Rearranged first third

/-- An option that is given once, as null, is left out. -/
inductive LeavesNullOut : List (Member Spelling) → List (Member Spelling) → Prop
  | at (before after : List (Member Spelling)) {member : Member Spelling} {key : String}
      (named : member.Named key) (asked : key ∈ names) (isNull : member.value = .null)
      (once : ∀ other ∈ before ++ after, ¬other.Named key) :
      LeavesNullOut (before ++ member :: after) (before ++ after)

inductive GivesTwice : List (Member Spelling) → Prop
  | at (before between after : List (Member Spelling)) {first second : Member Spelling}
      {key : String} (asked : key ∈ names) (named : first.Named key) (namedToo : second.Named key) :
      GivesTwice (before ++ first :: (between ++ second :: after))

variable (words : Wording)

/-- What an object is read as, or nothing when it is rejected. -/
def outcome (object : ObjectText) : Option Overrides :=
  (ofText words .json object.toString).toOption

theorem outcome_eq (object : ObjectText) :
    outcome words object =
      (record.readMembers 127 (object.members.map (Member.entry .stepwise)) .closed).toOption := by
  have trailing : Document.skipBlanks object.after.text = [] := by
    have skipped := object.after.skipBlanks_append []
    rwa [List.append_nil] at skipped
  have read : shape.ofText object.toString =
      record.readMembers 127 (object.members.map (Member.entry .stepwise)) .closed := by
    rw [Shape.ofText, object.ofText_toString]
    simp only [trailing, if_true]
    exact bind_pure _
  rw [outcome, ofText, read]
  cases record.readMembers 127 (object.members.map (Member.entry .stepwise)) .closed <;> rfl

theorem isSome_field?_iff_mem_names {key : String} :
    (Record.field? record.fields key).isSome = true ↔ key ∈ names :=
  Record.isSome_field?_iff

theorem takesNull_record : record.TakesNull := by
  repeat apply Record.TakesNull.omittable
  exact Record.TakesNull.start

theorem Rearranged.alike {first second : List (Member Spelling)} (same : Rearranged first second)
    (room : Nat) :
    Record.Alike record.fields room (first.map (Member.entry .stepwise))
      (second.map (Member.entry .stepwise)) := by
  induction same with
  | reordered order => exact .of_perm (order.map _)
  | symm _ inductionHypothesis => exact inductionHypothesis.symm
  | trans _ _ inductionHypothesis inductionHypothesisToo =>
      exact inductionHypothesis.trans inductionHypothesisToo
  | @inserted before after member key named unasked =>
      have unknown : Record.field? record.fields key = none := by
        rw [← Option.not_isSome_iff_eq_none, isSome_field?_iff_mem_names]
        exact unasked
      rw [List.map_append, List.map_append, List.map_cons, named.entry]
      exact .insert_unknown unknown (Spelling.skip_document _ _) _ _

/--
An override that is written as any JSON object depends on the members with the names of options, in no
order: other members may stand anywhere in it as long as their keys hold texts. An option that is given
once, as null, may as well be left out, and an object that gives an option twice is rejected.
-/
theorem outcome_depends_on_options :
    (∀ first second : ObjectText, Rearranged first.members second.members →
      outcome words first = outcome words second) ∧
    (∀ first second : ObjectText, LeavesNullOut first.members second.members →
      outcome words first = outcome words second) ∧
    ∀ object : ObjectText, GivesTwice object.members → outcome words object = none := by
  refine ⟨?_, ?_, ?_⟩
  · intro first second same
    rw [outcome_eq, outcome_eq]
    exact (same.alike 127).toOption_readMembers
  · intro first second same
    rw [outcome_eq, outcome_eq]
    generalize first.members = members at same
    generalize second.members = others at same
    obtain ⟨before, after, named, asked, isNull, once⟩ := same
    -- The key may be spelled in many ways; what counts is the text that it holds.
    rw [List.map_append, List.map_cons, named.entry, isNull, List.map_append]
    apply Record.toOption_readMembers_null takesNull_record (isSome_field?_iff_mem_names.mpr asked)
    intro entry among
    rw [← List.map_append] at among
    obtain ⟨other, member, rfl⟩ := List.mem_map.mp among
    exact fun same => once other member (held_eq_ok_iff.mp same)
  · intro object twice
    rw [outcome_eq]
    generalize object.members = members at twice
    obtain ⟨before, between, after, asked, named, namedToo⟩ := twice
    simp only [List.map_append, List.map_cons, named.entry, namedToo.entry]
    exact Record.toOption_readMembers_twice (isSome_field?_iff_mem_names.mpr asked) _ _

/-- A member whose key is the first half of a surrogate pair. -/
def halfPair : Member Spelling where
  key := [.unit ⟨'d', 13, rfl⟩ ⟨'8', 8, rfl⟩ ⟨'0', 0, rfl⟩ ⟨'0', 0, rfl⟩]
  behindKey := .none
  behindColon := .none
  value := .null

def compact (members : List (Member Spelling)) : ObjectText where
  before := .none
  inside := .none
  padded := members.map fun member => ⟨.none, member, .none⟩
  after := .none

example : (compact [halfPair]).toString = "\x7b\"\\ud800\":null\x7d" := by decide

theorem not_named_halfPair (key : String) : ¬halfPair.Named key := by
  intro named
  have unread : held halfPair.key = .error .shortEscape := rfl
  cases unread.symm.trans (held_eq_ok_iff.mpr named)

theorem outcome_compact_nil : outcome words (compact []) = some unset := by
  rw [outcome_eq]
  rfl

theorem outcome_compact_halfPair : outcome words (compact [halfPair]) = none := by
  rw [outcome_eq]
  rfl

/-- A member that names no option is not passed over when its key holds no text at all. -/
theorem halfPair_counts :
    ¬∀ (words : Wording) (first second : ObjectText) (before after : List (Member Spelling))
        (member : Member Spelling),
      first.members = before ++ after → second.members = before ++ member :: after →
        (∀ key ∈ names, ¬member.Named key) → outcome words first = outcome words second := by
  intro same
  have equal := same default (compact []) (compact [halfPair]) [] [] halfPair rfl rfl
    fun key _ => not_named_halfPair key
  rw [outcome_compact_nil, outcome_compact_halfPair] at equal
  cases equal

end Overrides

end ReportCharts
