import ReportCharts.Proofs.Json.RoundTrip

/-!
Texts of shapes.

When a shape round-trips and writes no doubles, its text is read back as well: the text is the one
of a value whose numbers are integers, and such a text holds the document of that value.
-/

namespace ReportCharts.Json

variable {σ α β : Type}

namespace Shape

/-- All numbers that are written for values that pass are integers of 64 bits. -/
def Whole (shape : Shape α) (passes : α → Prop) : Prop :=
  ∀ value, passes value → (shape.write value).Whole

variable {shape : Shape α} {passes : α → Prop}

theorem whole_string : Shape.string.Whole Any := fun _ _ => trivial

theorem whole_bool : Shape.bool.Whole Any := fun _ _ => trivial

theorem whole_named {name : α → String} {all : List α} : (Shape.named name all).Whole Any :=
  fun _ _ => trivial

theorem fits_of_lt {value : Nat} (small : value < UInt64.size) : Fits value := by
  have low : Binary64.int64Min ≤ 0 := by decide
  exact ⟨by omega, by omega⟩

theorem whole_uint32 : Shape.uint32.Whole Any := by
  intro value _
  have larger : UInt32.size ≤ UInt64.size := by decide
  exact fits_of_lt (Nat.lt_of_lt_of_le value.toNat_lt_size larger)

theorem whole_uint64 : Shape.uint64.Whole Any := fun value _ => fits_of_lt value.toNat_lt_size

theorem Whole.option (inner : shape.Whole passes) :
    (Shape.option shape).Whole fun value => ∀ some ∈ value, passes some := by
  rintro (_ | value) pass
  · trivial
  · exact inner value (pass value rfl)

/-- What reads the value that is written reads its text, whichever shape has written it. -/
theorem ofText_toText_of_read {reader : Shape β} {value : α} {result : β}
    (whole : (shape.write value).Whole)
    (read : reader.read 128 (shape.write value).document = .ok result) :
    reader.ofText (shape.toText value) = .ok result := by
  simp only [Shape.ofText, Shape.toText, String.toList_ofList, ofText_text _ whole, bind,
    Except.bind, read]
  rfl

theorem RoundTrips.ofText_toText {need : Nat} (trip : shape.RoundTrips passes need)
    (room : need < 128) (whole : shape.Whole passes) {value : α} (pass : passes value) :
    shape.ofText (shape.toText value) = .ok value :=
  ofText_toText_of_read (whole value pass)
    (trip value pass _ (Value.Reordered.refl _) 128 room)

end Shape

namespace Record

def Whole (record : Record σ α) (passes : σ → Prop) : Prop :=
  ∀ value, passes value → Value.MembersWhole (record.members value)

namespace Whole

variable {passes : σ → Prop} {key : String}

theorem append {members more : List (String × Value)} (whole : Value.MembersWhole members)
    (wholeMore : Value.MembersWhole more) : Value.MembersWhole (members ++ more) := by
  induction members with
  | nil => exact wholeMore
  | cons member members inductionHypothesis => exact ⟨whole.1, inductionHypothesis whole.2⟩

theorem start {make : α} : (Record.start (σ := σ) make).Whole passes := fun _ _ => trivial

theorem required {record : Record σ (β → α)} {field : β → Prop} {shape : Shape β} {get : σ → β}
    (front : record.Whole passes) (inner : shape.Whole field)
    (sound : ∀ value, passes value → field (get value)) :
    (record.required key get shape).Whole passes :=
  fun value pass => append (front value pass) ⟨inner _ (sound value pass), trivial⟩

theorem nullable {record : Record σ (Option β → α)} {field : β → Prop} {shape : Shape β}
    {get : σ → Option β} (front : record.Whole passes) (inner : shape.Whole field)
    (sound : ∀ value, passes value → ∀ some ∈ get value, field some) :
    (record.nullable key get shape).Whole passes :=
  fun value pass => append (front value pass) ⟨inner.option _ (sound value pass), trivial⟩

theorem omittable {record : Record σ (Option β → α)} {field : β → Prop} {shape : Shape β}
    {get : σ → Option β} {defaulted : Bool} (front : record.Whole passes)
    (inner : shape.Whole field) (sound : ∀ value, passes value → ∀ some ∈ get value, field some) :
    (record.omittable key get shape defaulted).Whole passes := by
  intro value pass
  refine append (front value pass) ?_
  cases present : get value with
  | none => trivial
  | some inside => exact ⟨inner inside (sound value pass inside present), trivial⟩

theorem shape {record : Record α α} {passes : α → Prop} {name : String}
    (whole : record.Whole passes) : (record.shape name).Whole passes := whole

end Whole

end Record

end ReportCharts.Json
