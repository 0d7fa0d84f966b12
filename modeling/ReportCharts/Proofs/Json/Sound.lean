import ReportCharts.Proofs.Binary64.Integers
import ReportCharts.Proofs.Json.RoundTrip

/-!
What can come out of a JSON text.

Its integers have 64 bits and its doubles are finite, because a number out of range is a fault. So
what a shape reads from a text always passes the condition under which the shape round-trips.
-/

namespace ReportCharts.Json

namespace Document

mutual

/-- Every number of a document fits into 64 bits or is a finite double. -/
def Sound : Document → Prop
  | .number (.ok (.int value)) => Fits value
  | .number (.ok (.float value)) => value.isFinite = true
  | .array items _ => ItemsSound items
  | .object members _ => MembersSound members
  | _ => True

def ItemsSound : List Document → Prop
  | [] => True
  | item :: rest => item.Sound ∧ ItemsSound rest

def MembersSound : List (Except Fault String × Document) → Prop
  | [] => True
  | (_, value) :: rest => value.Sound ∧ MembersSound rest

end

theorem sound_literal (rounding : Binary64.Rounding) (literal : Literal) :
    Sound (.number (literal.value rounding)) := by
  simp only [Literal.value]
  split
  · next natural =>
      have low : Binary64.int64Min ≤ 0 := by decide
      exact ⟨by omega, by omega⟩
  split
  · next negative =>
      have high : (0 : Int) < UInt64.size := by decide
      exact ⟨negative.2.2.2, by omega⟩
  split
  · next finite => exact finite
  · trivial

theorem sound_numberDocument (rounding : Binary64.Rounding) (first : Char) (text : List Char) :
    (numberDocument rounding first text).1.Sound := by
  rw [numberDocument]
  split
  · exact sound_literal rounding _
  · trivial

theorem sound_wordDocument (first : Char) (word text : List Char) {document : Document}
    (sound : document.Sound) : (wordDocument first document word text).1.Sound := by
  rw [wordDocument]
  split
  · exact sound
  · trivial

theorem sound_stringDocument (text : List Char) : (stringDocument text).1.Sound := by
  rw [stringDocument]
  split <;> trivial

-- The induction is on the fuel: each reader calls the others with less of it.
mutual

theorem sound_readValue (rounding : Binary64.Rounding) :
    ∀ (fuel : Nat) (text : List Char), (readValue rounding fuel text).1.Sound
  | 0, _ => trivial
  | fuel + 1, text => by
      rw [readValue]
      split
      · trivial
      · exact sound_wordDocument _ _ _ trivial
      · exact sound_wordDocument _ _ _ trivial
      · exact sound_wordDocument _ _ _ trivial
      · exact sound_stringDocument _
      · exact sound_readItems rounding fuel true _
      · exact sound_readMembers rounding fuel true _
      · split
        · exact sound_numberDocument ..
        · trivial

theorem sound_readItems (rounding : Binary64.Rounding) :
    ∀ (fuel : Nat) (first : Bool) (text : List Char),
      ItemsSound (readItems rounding fuel first text).1
  | 0, _, _ => trivial
  | fuel + 1, first, text => by
      rw [readItems]
      split
      · trivial
      · trivial
      split
      · exact sound_readItem rounding fuel _
      split
      · split
        · trivial
        · trivial
        · exact sound_readItem rounding fuel _
      · trivial

theorem sound_readItem (rounding : Binary64.Rounding) :
    ∀ (fuel : Nat) (text : List Char), ItemsSound (readItem rounding fuel text).1
  | 0, _ => trivial
  | fuel + 1, text => ⟨sound_readValue rounding fuel text, sound_readItems rounding fuel false _⟩

theorem sound_readMembers (rounding : Binary64.Rounding) :
    ∀ (fuel : Nat) (first : Bool) (text : List Char),
      MembersSound (readMembers rounding fuel first text).1
  | 0, _, _ => trivial
  | fuel + 1, first, text => by
      rw [readMembers]
      split
      · trivial
      · trivial
      split
      · exact sound_readMember rounding fuel _
      split
      · split
        · trivial
        · trivial
        · exact sound_readMember rounding fuel _
      · trivial

theorem sound_readMember (rounding : Binary64.Rounding) :
    ∀ (fuel : Nat) (text : List Char), MembersSound (readMember rounding fuel text).1
  | 0, _ => trivial
  | fuel + 1, [] => trivial
  | fuel + 1, c :: text => by
      by_cases quote : c = '"'
      · subst quote
        rw [readMember]
        split
        · trivial
        split
        · exact ⟨sound_readValue rounding fuel _, sound_readMembers rounding fuel false _⟩
        · exact ⟨trivial, trivial⟩
        · exact ⟨trivial, trivial⟩
      · rw [readMember]
        · trivial
        · exact fun text same => quote (List.cons.inj same).1

end

theorem sound_ofText (rounding : Binary64.Rounding) (text : List Char) :
    (Document.ofText rounding text).1.Sound := sound_readValue rounding _ text

end Document

variable {σ α β : Type}

namespace Shape

/-- Whatever is read from a sound document passes. -/
def Yields (shape : Shape α) (passes : α → Prop) : Prop :=
  ∀ room (document : Document) value, document.Sound → shape.read room document = .ok value →
    passes value

theorem yields_any (shape : Shape α) : shape.Yields Any := fun _ _ _ _ _ => trivial

theorem yields_double : Shape.double.Yields fun value => value.isFinite = true := by
  intro room document value sound read
  simp only [Shape.double] at read
  split at read
  · next number =>
      obtain rfl := Except.ok.inj read
      cases number with
      | int number =>
          refine Binary64.isFinite_ofInt ?_
          have low : Binary64.int64Min = -2 ^ 63 := by decide
          have high : (UInt64.size : Int) = 2 ^ 64 := by decide
          obtain ⟨above, below⟩ := sound
          omega
      | float number => exact sound
  · cases read

theorem lt_of_readNat {limit : Nat} {wanted : String} {document : Document} {value : Nat}
    (read : readNat limit wanted document = .ok value) : value < limit := by
  unfold readNat at read
  split at read
  · split at read
    · cases read
      omega
    · cases read
  · cases read

theorem yields_size : Shape.size.Yields fun value => value < UInt64.size :=
  fun _ _ _ _ read => lt_of_readNat read

theorem Yields.readItems {shape : Shape α} {passes : α → Prop} (inner : shape.Yields passes)
    {room : Nat} {items : List Document} {values : List α} (sound : Document.ItemsSound items)
    (read : Shape.readItems shape room items = .ok values) : ∀ value ∈ values, passes value := by
  induction items generalizing values with
  | nil =>
      cases read
      simp
  | cons item items inductionHypothesis =>
      obtain ⟨first, readFirst, read⟩ := bind_eq_ok read
      obtain ⟨rest, readRest, read⟩ := bind_eq_ok read
      cases read
      have passFirst := inner room item first sound.1 readFirst
      have passRest := inductionHypothesis sound.2 readRest
      simpa using ⟨passFirst, passRest⟩

theorem Yields.list {shape : Shape α} {passes : α → Prop} (inner : shape.Yields passes) :
    (Shape.list shape).Yields fun values => ∀ value ∈ values, passes value := by
  intro room document values sound read
  cases document with
  | array items stop =>
      obtain ⟨found, readFound, read⟩ := bind_eq_ok read
      obtain ⟨_, _, read⟩ := bind_eq_ok read
      cases read
      exact inner.readItems sound readFound
  | _ => cases read

end Shape

namespace Record

def Yields (record : Record σ α) (passes : α → Prop) : Prop :=
  ∀ room find value, (∀ key document, find key = some document → document.Sound) →
    record.build room find = .ok value → passes value

namespace Yields

variable {passes : α → Prop} {shape : Shape β} {key : String}

theorem start {make : α} (pass : passes make) : (Record.start (σ := σ) make).Yields passes := by
  intro room find value _ built
  cases built
  exact pass

theorem required {record : Record σ (β → α)} {field : β → Prop} {get : σ → β}
    (front : record.Yields fun make => ∀ value, field value → passes (make value))
    (inner : shape.Yields field) : (record.required key get shape).Yields passes := by
  intro room find value sound built
  obtain ⟨make, builtFront, built⟩ := bind_eq_ok built
  have passFront := front room find make sound builtFront
  split at built
  · next document found =>
      obtain ⟨inside, read, built⟩ := bind_eq_ok built
      cases built
      exact passFront inside (inner room document inside (sound _ _ found) read)
  · cases built

theorem nullable {record : Record σ (Option β → α)} {get : σ → Option β}
    (front : record.Yields fun make => ∀ value, passes (make value)) :
    (record.nullable key get shape).Yields passes := by
  intro room find value sound built
  obtain ⟨make, builtFront, built⟩ := bind_eq_ok built
  obtain ⟨inside, _, built⟩ := bind_eq_ok built
  cases built
  exact front room find make sound builtFront inside

theorem omittable {record : Record σ (Option β → α)} {get : σ → Option β} {defaulted : Bool}
    (front : record.Yields fun make => ∀ value, passes (make value)) :
    (record.omittable key get shape defaulted).Yields passes := by
  intro room find value sound built
  obtain ⟨make, builtFront, built⟩ := bind_eq_ok built
  obtain ⟨inside, _, built⟩ := bind_eq_ok built
  cases built
  exact front room find make sound builtFront inside

end Yields

def AllSound (found : List (String × Document)) : Prop := ∀ entry ∈ found, entry.2.Sound

theorem AllSound.lookup {found : List (String × Document)} (all : AllSound found) (key : String)
    (document : Document) (present : Record.lookup found key = some document) :
    document.Sound := by
  obtain ⟨entry, at_, rfl⟩ := Option.map_eq_some_iff.mp present
  exact all entry (List.mem_of_find?_eq_some at_)

theorem allSound_collect {fields : List Field} {room : Nat}
    {members : List (Except Fault String × Document)} {sofar found : List (String × Document)}
    (soundMembers : Document.MembersSound members) (soundSofar : AllSound sofar)
    (read : collect fields room sofar members = .ok found) : AllSound found := by
  induction members generalizing sofar with
  | nil =>
      cases read
      exact soundSofar
  | cons member members inductionHypothesis =>
      obtain ⟨name, document⟩ := member
      obtain ⟨key, -, read⟩ := bind_eq_ok read
      split at read
      · split at read
        · cases read
        · obtain ⟨_, -, read⟩ := bind_eq_ok read
          refine inductionHypothesis soundMembers.2 ?_ read
          intro entry mem
          rcases List.mem_append.mp mem with old | new
          · exact soundSofar entry old
          · rw [List.mem_singleton.mp new]
            exact soundMembers.1
      · obtain ⟨_, -, read⟩ := bind_eq_ok read
        exact inductionHypothesis soundMembers.2 soundSofar read

theorem allSound_assign {wanted : String} {room : Nat} {stop : Stop} {position : Nat}
    {fields : List Field} {items : List Document} {found : List (String × Document)}
    (sound : Document.ItemsSound items)
    (read : assign wanted room stop position fields items = .ok found) : AllSound found := by
  induction fields generalizing position items found with
  | nil =>
      obtain ⟨_, -, read⟩ := bind_eq_ok read
      cases read
      simp [AllSound]
  | cons field fields inductionHypothesis =>
      cases items with
      | nil =>
          obtain ⟨_, -, read⟩ := bind_eq_ok read
          split at read
          · exact inductionHypothesis sound read
          · cases read
      | cons item items =>
          obtain ⟨_, -, read⟩ := bind_eq_ok read
          obtain ⟨rest, readRest, read⟩ := bind_eq_ok read
          cases read
          have soundRest := inductionHypothesis sound.2 readRest
          rintro entry mem
          rcases List.mem_cons.mp mem with rfl | behind
          · exact sound.1
          · exact soundRest entry behind

theorem Yields.readMembers {record : Record σ α} {passes : α → Prop} (yields : record.Yields passes)
    {room : Nat} {members : List (Except Fault String × Document)} {stop : Stop} {value : α}
    (sound : Document.MembersSound members)
    (read : record.readMembers room members stop = .ok value) : passes value := by
  obtain ⟨found, collected, read⟩ := bind_eq_ok read
  obtain ⟨_, -, built⟩ := bind_eq_ok read
  have soundFound : AllSound found := allSound_collect sound (by simp [AllSound]) collected
  exact yields room (Record.lookup found) value soundFound.lookup built

/-- A record yields the same from an object and from a list. -/
theorem Yields.shape {record : Record α α} {passes : α → Prop} {name : String}
    (yields : record.Yields passes) : (record.shape name).Yields passes := by
  intro room document value sound read
  cases document with
  | object members stop => exact yields.readMembers sound read
  | array items stop =>
      obtain ⟨found, assigned, built⟩ := bind_eq_ok read
      exact yields _ _ value (allSound_assign sound assigned).lookup built
  | _ => cases read

end Record

namespace Shape

/--
Reading undoes writing for every value that passes, and for every value that any text holds.

`need` is as for round trips.
-/
structure Lossless (shape : Shape α) (passes : α → Prop) (need : Nat) : Prop where
  undoes : shape.RoundTrips passes need
  settles : ∀ text value, shape.ofText text = .ok value →
    ∀ tree, Value.Reordered (shape.write value) tree →
      ∀ room, need < room → shape.read room tree.document = .ok value

theorem Yields.ofText {shape : Shape α} {passes : α → Prop} (yields : shape.Yields passes)
    {text : String} {value : α} (read : shape.ofText text = .ok value) : passes value := by
  have sound := Document.sound_ofText .stepwise text.toList
  unfold Shape.ofText at read
  generalize Document.ofText .stepwise text.toList = parsed at read sound
  obtain ⟨document, rest⟩ := parsed
  obtain ⟨found, readDocument, read⟩ := bind_eq_ok read
  split at read
  · cases read
    exact yields 128 document value sound readDocument
  · cases read

/-- What a shape reads passes the condition under which it is read back. -/
theorem RoundTrips.lossless {shape : Shape α} {passes : α → Prop} {need : Nat}
    (trip : shape.RoundTrips passes need) (yields : shape.Yields passes) :
    shape.Lossless passes need where
  undoes := trip
  settles _ value read := trip value (yields.ofText read)

end Shape

end ReportCharts.Json
