import Mathlib.Data.List.Permutation
import ReportCharts.Proofs.Json.Sound
import ReportCharts.Schema.Envelope

/-!
Faults, read back from what they are written as.

The type and the details of a fault may come in either order. Sizes are counted in 64 bits, both
where they are written and where they are read.
-/

namespace ReportCharts.ChartFault

open Json

def Sized : ChartFault → Prop
  | .malformedReport _ expected actual => expected < UInt64.size ∧ actual < UInt64.size
  | _ => True

theorem Tag.roundTrips {need : Nat} : Tag.shape.RoundTrips Shape.Any need :=
  .named fun tag => by cases tag <;> rfl

section

variable {need : Nat}

theorem malformedReportRecord_roundTrips : malformedReportRecord.RoundTrips
    (fun details => details.2.1 < UInt64.size ∧ details.2.2 < UInt64.size)
    (fun details => .malformedReport details.1 details.2.1 details.2.2) need :=
  Record.RoundTrips.start
    |>.required .string (fun _ _ => trivial)
    |>.required .size (fun _ sized => sized.1)
    |>.required .size (fun _ sized => sized.2)

theorem invalidFormatRecord_roundTrips : invalidFormatRecord.RoundTrips Shape.Any
    (fun details => .invalidFormat details.1 details.2) need :=
  Record.RoundTrips.start
    |>.required .string (fun _ _ => trivial)
    |>.required .string (fun _ _ => trivial)

theorem invalidConfigRecord_roundTrips : invalidConfigRecord.RoundTrips Shape.Any
    (fun details => .invalidConfig details.1 details.2) need :=
  Record.RoundTrips.start
    |>.required .string (fun _ _ => trivial)
    |>.nullable .string Shape.given_string (fun _ _ _ _ => trivial)

theorem textRecord_roundTrips (make : String → ChartFault) (key : String) :
    (textRecord make key).RoundTrips Shape.Any make need :=
  Record.RoundTrips.start |>.required .string (fun _ _ => trivial)

end

/-- Details that a record has written are read by it in whatever order they stand. -/
theorem readObject_of_reordered {σ : Type} {record : Record σ ChartFault} {passes : σ → Prop}
    {result : σ → ChartFault} (trip : record.RoundTrips passes result 0)
    (distinct : record.keys.Nodup) (value : σ) (pass : passes value) {tree : Value}
    (same : Value.Reordered (.object (record.members value)) tree) (tag : Tag) {room : Nat}
    (enough : 1 < room) : readObject record tag room tree.document = .ok (result value) := by
  obtain ⟨others, rfl, -⟩ := same.members
  exact trip.readMembers distinct pass same (room - 1) (by omega)

theorem readDetails_of_reordered {fault : ChartFault} (sized : fault.Sized) {tree : Value}
    (same : Value.Reordered (.object fault.writeDetails) tree) {room : Nat} (enough : 1 < room) :
    readDetails fault.tag room tree.document = .ok fault := by
  cases fault with
  | malformedReport series expected actual =>
      exact readObject_of_reordered malformedReportRecord_roundTrips (by decide)
        (series, expected, actual) sized same _ enough
  | invalidFormat expected actual =>
      exact readObject_of_reordered invalidFormatRecord_roundTrips (by decide) (expected, actual)
        trivial same _ enough
  | dataParse message =>
      exact readObject_of_reordered (textRecord_roundTrips ..) (by decide) _ trivial same _ enough
  | invalidConfig message field =>
      exact readObject_of_reordered invalidConfigRecord_roundTrips (by decide) (message, field)
        trivial same _ enough
  | unknownPreset name =>
      exact readObject_of_reordered (textRecord_roundTrips ..) (by decide) _ trivial same _ enough
  | interop message =>
      exact readObject_of_reordered (textRecord_roundTrips ..) (by decide) _ trivial same _ enough
  | internal message =>
      exact readObject_of_reordered (textRecord_roundTrips ..) (by decide) _ trivial same _ enough

theorem depth_writeDetails (fault : ChartFault) : (Value.object fault.writeDetails).depth = 1 := by
  cases fault with
  | invalidConfig message field => cases field <;> rfl
  | _ => rfl

/-- An object of a type and details has just these two members, in one order or the other. -/
theorem reordered_pair {fault : ChartFault} {others : List (String × Value)}
    (same : Value.Reordered (shape.write fault) (.object others)) :
    ∃ details, Value.Reordered (.object fault.writeDetails) details ∧
      (others = [("type", .string fault.tag.name), ("details", details)] ∨
        others = [("details", details), ("type", .string fault.tag.name)]) := by
  obtain ⟨arranged, _, sameObject, sameMembers, order⟩ := same
  obtain rfl := Value.object.inj sameObject
  obtain ⟨_, _, rfl, rfl, details, _, rfl, sameDetails, rfl⟩ := sameMembers
  exact ⟨details, sameDetails, List.pair_perm.mp order⟩

section

variable (document : Document) (rest : List (Except Fault String × Document))

theorem nextPart_type :
    nextPart .closed ((.ok "type", document) :: rest) = .ok (some (.type, document, rest)) := rfl

theorem nextPart_details :
    nextPart .closed ((.ok "details", document) :: rest) = .ok (some (.details, document, rest)) :=
  rfl

theorem nextPart_nil : nextPart .closed [] = .ok none := rfl

end

theorem roundTrips {need : Nat} : ChartFault.shape.RoundTrips Sized (need + 2) := by
  intro fault sized tree same room enough
  obtain ⟨others, rfl, -⟩ := Value.Reordered.members same
  obtain ⟨details, sameDetails, order⟩ := reordered_pair same
  have readTag : Tag.shape.read (room - 1) (.string (.ok fault.tag.name)) = .ok fault.tag :=
    Tag.roundTrips fault.tag trivial _ rfl (room - 1) (show 0 < room - 1 by omega)
  have read := readDetails_of_reordered sized sameDetails (show 1 < room - 1 by omega)
  have shallow : details.depth < room - 1 := by
    have written := depth_writeDetails fault
    have reordered := Value.Reordered.depth_le sameDetails
    omega
  have checked := Value.check_document shallow
  rcases order with rfl | rfl
  · simp only [shape, Value.document, Value.memberDocuments, readParts, nextPart_type,
      nextPart_details, nextPart_nil, noMoreParts, bind, Except.bind, readTag, read]
    rfl
  · simp only [shape, Value.document, Value.memberDocuments, readParts, nextPart_type,
      nextPart_details, nextPart_nil, noMoreParts, bind, Except.bind, readTag, read, checked]
    rfl

theorem readObject_yields {σ : Type} {record : Record σ ChartFault} (yields : record.Yields Sized)
    {tag : Tag} {room : Nat} {document : Document} {fault : ChartFault} (sound : document.Sound)
    (read : readObject record tag room document = .ok fault) : fault.Sized := by
  cases document with
  | object members stop => exact yields.readMembers sound read
  | _ => cases read

theorem textRecord_yields {make : String → ChartFault} (sized : ∀ text, (make text).Sized)
    (key : String) : (textRecord make key).Yields Sized :=
  (Record.Yields.start (fun text _ => sized text)).required (Shape.yields_any _)

theorem readDetails_yields {tag : Tag} {room : Nat} {document : Document} {fault : ChartFault}
    (sound : document.Sound) (read : readDetails tag room document = .ok fault) : fault.Sized := by
  cases tag with
  | malformedReport =>
      have yields : malformedReportRecord.Yields Sized :=
        Record.Yields.start (fun _ _ _ expected _ actual => ⟨expected, actual⟩)
          |>.required (Shape.yields_any _)
          |>.required Shape.yields_size
          |>.required Shape.yields_size
      exact readObject_yields yields sound read
  | invalidFormat =>
      have yields : invalidFormatRecord.Yields Sized :=
        Record.Yields.start (fun _ _ _ _ => trivial)
          |>.required (Shape.yields_any _)
          |>.required (Shape.yields_any _)
      exact readObject_yields yields sound read
  | invalidConfig =>
      have yields : invalidConfigRecord.Yields Sized :=
        Record.Yields.start (fun _ _ _ => trivial)
          |>.required (Shape.yields_any _)
          |>.nullable
      exact readObject_yields yields sound read
  | dataParse | unknownPreset | interop | internal =>
      refine readObject_yields (textRecord_yields ?_ _) sound read
      exact fun _ => trivial

theorem sound_nextPart {stop : Stop} {members rest : List (Except Fault String × Document)}
    {part : Part} {document : Document} (sound : Document.MembersSound members)
    (read : nextPart stop members = .ok (some (part, document, rest))) :
    document.Sound ∧ Document.MembersSound rest := by
  induction members with
  | nil =>
      obtain ⟨_, -, read⟩ := bind_eq_ok read
      cases read
  | cons member members inductionHypothesis =>
      obtain ⟨key, -, read⟩ := bind_eq_ok read
      split at read
      · cases read
        exact sound
      · obtain ⟨_, -, read⟩ := bind_eq_ok read
        exact inductionHypothesis sound.2 read

theorem readParts_yields {room : Nat} {stop : Stop}
    {members : List (Except Fault String × Document)} {fault : ChartFault}
    (sound : Document.MembersSound members) (read : readParts room stop members = .ok fault) :
    fault.Sized := by
  obtain ⟨first, foundFirst, read⟩ := bind_eq_ok read
  match first with
  | none => cases read
  | some (.type, document, rest) =>
      have soundFirst := sound_nextPart sound foundFirst
      obtain ⟨tag, -, read⟩ := bind_eq_ok read
      obtain ⟨second, foundSecond, read⟩ := bind_eq_ok read
      match second with
      | none | some (.type, _, _) => cases read
      | some (.details, document, rest) =>
          have soundSecond := sound_nextPart soundFirst.2 foundSecond
          obtain ⟨found, readFault, read⟩ := bind_eq_ok read
          obtain ⟨_, -, read⟩ := bind_eq_ok read
          cases read
          exact readDetails_yields soundSecond.1 readFault
  | some (.details, details, rest) =>
      have soundFirst := sound_nextPart sound foundFirst
      obtain ⟨_, -, read⟩ := bind_eq_ok read
      obtain ⟨second, foundSecond, read⟩ := bind_eq_ok read
      match second with
      | none | some (.details, _, _) => cases read
      | some (.type, document, rest) =>
          obtain ⟨tag, -, read⟩ := bind_eq_ok read
          obtain ⟨found, readFault, read⟩ := bind_eq_ok read
          obtain ⟨_, -, read⟩ := bind_eq_ok read
          cases read
          exact readDetails_yields soundFirst.1 readFault

theorem readPair_yields {room : Nat} {stop : Stop} {items : List Document} {fault : ChartFault}
    (sound : Document.ItemsSound items) (read : readPair room stop items = .ok fault) :
    fault.Sized := by
  match items with
  | [] =>
      obtain ⟨_, -, read⟩ := bind_eq_ok read
      cases read
  | [_] =>
      obtain ⟨_, -, read⟩ := bind_eq_ok read
      obtain ⟨_, -, read⟩ := bind_eq_ok read
      cases read
  | _ :: details :: rest =>
      obtain ⟨_, -, read⟩ := bind_eq_ok read
      obtain ⟨found, readFault, read⟩ := bind_eq_ok read
      obtain ⟨_, -, read⟩ := bind_eq_ok read
      cases read
      exact readDetails_yields sound.2.1 readFault

theorem yields : ChartFault.shape.Yields Sized := by
  intro room document fault sound read
  cases document with
  | object members stop => exact readParts_yields sound read
  | array items stop => exact readPair_yields sound read
  | _ => cases read

end ReportCharts.ChartFault
