import ReportCharts.Json.Record
import ReportCharts.Page.HostValue

/-!
What scripts see of values that are written by shapes: the members of an object by their keys, and
that nothing is null where a shape leaves out what is not given.
-/

namespace ReportCharts

open Json

namespace Page.HostValue

def at? (value : HostValue) : List String → Option HostValue
  | [] => some value
  | key :: rest => (value.key? key).bind fun inside => inside.at? rest

/-- Neither null nor undefined at any depth. -/
inductive Complete : HostValue → Prop
  | bool (value : Bool) : Complete (.bool value)
  | number (value : Binary64) : Complete (.number value)
  | string (value : String) : Complete (.string value)
  | array {items : List HostValue} (each : ∀ item ∈ items, Complete item) :
      Complete (.array items)
  | object {members : List (String × HostValue)} (each : ∀ member ∈ members, Complete member.2) :
      Complete (.object members)

theorem key?_ofJson (key : String) (value : Value) :
    (ofJson value).key? key = (value.member? key).map ofJson := by
  cases value with
  | object members =>
      rw [ofJson, key?, Value.member?, ofMembers_eq_map, List.find?_map, Option.map_map,
        Option.map_map]
      rfl
  | _ => rfl

end Page.HostValue

open Page (HostValue)

namespace Json

variable {σ α β : Type}

namespace Record

def written? (record : Record σ α) (value : σ) (key : String) : Option Value :=
  ((record.members value).find? fun member => member.1 == key).map Prod.snd

theorem member?_shape (record : Record α α) (name : String) (value : α) (key : String) :
    ((record.shape name).write value).member? key = record.written? value key := rfl

@[simp]
theorem written?_start (make : α) (value : σ) (key : String) :
    (start make).written? value key = none := rfl

@[simp]
theorem written?_required (record : Record σ (β → α)) (own : String) (get : σ → β)
    (shape : Shape β) (value : σ) (key : String) :
    (record.required own get shape).written? value key =
      (record.written? value key).or
        (if own = key then some (shape.write (get value)) else none) := by
  simp only [written?, required, List.find?_append]
  by_cases same : own = key <;>
    cases (record.members value).find? fun member => member.1 == key <;> simp [same]

@[simp]
theorem written?_omittable (record : Record σ (Option β → α)) (own : String) (get : σ → Option β)
    (shape : Shape β) (defaulted : Bool) (value : σ) (key : String) :
    (record.omittable own get shape defaulted).written? value key =
      (record.written? value key).or
        (if own = key then (get value).map shape.write else none) := by
  simp only [written?, omittable, List.find?_append]
  cases get value with
  | none => cases (record.members value).find? fun member => member.1 == key <;> simp [presentMember]
  | some inside =>
      by_cases same : own = key <;>
        cases (record.members value).find? fun member => member.1 == key <;>
          simp [presentMember, same]

end Record

namespace Shape

/-- Whatever is written is neither null nor holds it, as scripts see it. -/
def WritesComplete (shape : Shape α) : Prop :=
  ∀ value, (HostValue.ofJson (shape.write value)).Complete

namespace WritesComplete

theorem string : Shape.string.WritesComplete := fun value => .string value

theorem bool : Shape.bool.WritesComplete := fun value => .bool value

theorem double : Shape.double.WritesComplete := fun value => .number value

theorem uint32 : Shape.uint32.WritesComplete := fun _ => .number _

theorem named (name : α → String) (all : List α) : (Shape.named name all).WritesComplete :=
  fun _ => .string _

theorem list {shape : Shape α} (inner : shape.WritesComplete) :
    (Shape.list shape).WritesComplete := by
  intro values
  simp only [Shape.list, HostValue.ofJson, HostValue.ofItems_eq_map, List.map_map]
  refine .array ?_
  intro item member
  obtain ⟨value, -, rfl⟩ := List.mem_map.mp member
  exact inner value

end WritesComplete

end Shape

namespace Record

def WritesComplete (record : Record σ α) : Prop :=
  ∀ value, ∀ member ∈ record.members value, (HostValue.ofJson member.2).Complete

namespace WritesComplete

variable {own : String}

theorem start {make : α} : (Record.start (σ := σ) make).WritesComplete := by
  intro value member among
  cases among

theorem required {record : Record σ (β → α)} {get : σ → β} {shape : Shape β}
    (front : record.WritesComplete) (inner : shape.WritesComplete) :
    (record.required own get shape).WritesComplete := by
  intro value member among
  rcases List.mem_append.mp among with among | among
  · exact front value member among
  · obtain rfl := List.mem_singleton.mp among
    exact inner (get value)

theorem omittable {record : Record σ (Option β → α)} {get : σ → Option β} {shape : Shape β}
    {defaulted : Bool} (front : record.WritesComplete) (inner : shape.WritesComplete) :
    (record.omittable own get shape defaulted).WritesComplete := by
  intro value member among
  rcases List.mem_append.mp among with among | among
  · exact front value member among
  · cases given : get value with
    | none =>
        rw [given] at among
        cases among
    | some inside =>
        rw [given] at among
        obtain rfl := List.mem_singleton.mp among
        exact inner inside

theorem shape {record : Record α α} {name : String} (complete : record.WritesComplete) :
    (record.shape name).WritesComplete := by
  intro value
  simp only [Record.shape, HostValue.ofJson, HostValue.ofMembers_eq_map]
  refine .object ?_
  intro member among
  obtain ⟨source, sourceMember, rfl⟩ := List.mem_map.mp among
  exact complete value source sourceMember

end WritesComplete

end Record

end Json

end ReportCharts
