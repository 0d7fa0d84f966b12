import ReportCharts.Proofs.Json.Collected
import ReportCharts.Proofs.Json.Reordered

/-!
Shapes whose values are read back as they were written.

A shape round-trips when the value it writes is read as that value, whatever order the members of
its objects are put in. There is one rule for every way to make a shape, and one for every way to
add a field to a record.
-/

namespace ReportCharts.Json

open Value (Reordered SameMember)

variable {σ α β : Type}

namespace Shape

/--
A written value that passes is read as that value.

`need` is how much of the room is not enough.
-/
def RoundTrips (shape : Shape α) (passes : α → Prop) (need : Nat) : Prop :=
  ∀ value, passes value → ∀ tree, Reordered (shape.write value) tree →
    ∀ room, need < room → shape.read room tree.document = .ok value

def Any (_ : α) : Prop := True

namespace RoundTrips

variable {shape : Shape α} {passes : α → Prop} {need : Nat}

theorem string : Shape.string.RoundTrips Any need := by
  rintro value - _ rfl room -
  rfl

theorem bool : Shape.bool.RoundTrips Any need := by
  rintro value - _ rfl room -
  rfl

theorem double : Shape.double.RoundTrips (fun value => value.isFinite = true) need := by
  rintro value finite _ rfl room -
  simp only [Shape.double, Value.document, finite, if_true, Number.toBinary64]

theorem readNat_int {limit value : Nat} (wanted : String) (small : value < limit) :
    Shape.readNat limit wanted (Value.int value).document = .ok value := by
  simp [Value.int, Value.document, Shape.readNat, small]

theorem uint32 : Shape.uint32.RoundTrips Any need := by
  rintro value - _ rfl room -
  simp only [Shape.uint32]
  rw [readNat_int "u32" value.toNat_lt_size, Except.map, UInt32.ofNat_toNat]

theorem uint64 : Shape.uint64.RoundTrips Any need := by
  rintro value - _ rfl room -
  simp only [Shape.uint64]
  rw [readNat_int "u64" value.toNat_lt_size, Except.map, UInt64.ofNat_toNat]

theorem size : Shape.size.RoundTrips (fun value => value < UInt64.size) need := by
  rintro value small _ rfl room -
  simp only [Shape.size]
  exact readNat_int "usize" small

theorem named {name : α → String} {all : List α}
    (known : ∀ value, readName (byName name all) (name value) = .ok value) :
    (Shape.named name all).RoundTrips Any need := by
  rintro value - _ rfl room -
  exact known value

theorem value : Shape.value.RoundTrips
    (fun value => value.Whole ∧ value.Sorted ∧ value.depth ≤ need) need := by
  rintro value ⟨whole, sorted, shallow⟩ tree same room enough
  exact Value.value_of_reordered room sorted whole (by omega) same

theorem list (inner : shape.RoundTrips passes need) :
    (Shape.list shape).RoundTrips (fun values => ∀ value ∈ values, passes value) (need + 1) := by
  have items : ∀ (values : List α) (others : List Value) (room : Nat),
      (∀ value ∈ values, passes value) → Value.ItemsReordered (values.map shape.write) others →
      need < room → readItems shape room (Value.itemDocuments others) = .ok values := by
    intro values
    induction values with
    | nil =>
        rintro _ room - rfl -
        rfl
    | cons value values inductionHypothesis =>
        rintro _ room pass ⟨other, rest, rfl, same, more⟩ enough
        have readFirst := inner value (pass value (by simp)) other same room enough
        have readMore :=
          inductionHypothesis rest room (fun value mem => pass value (by simp [mem])) more enough
        rw [Value.itemDocuments, readItems, readFirst, readMore]
        rfl
  rintro values pass _ ⟨others, rfl, same⟩ room enough
  have read := items values others (room - 1) pass same (by omega)
  simp only [Shape.list, Value.document, read]
  rfl

end RoundTrips

/-- What is written is never taken for a missing value. -/
def Given (shape : Shape α) : Prop := ∀ value, (shape.write value).isGiven = true

theorem Given.option {shape : Shape α} {passes : α → Prop} {need : Nat} (given : shape.Given)
    (inner : shape.RoundTrips passes need) :
    (Shape.option shape).RoundTrips (fun value => ∀ some ∈ value, passes some) need := by
  rintro (_ | value) pass tree same room enough
  · cases same
    rfl
  · have read := inner value (pass value rfl) tree same room enough
    have whole : tree.isGiven = true := (Value.Reordered.isGiven same).trans (given value)
    have opened : (Shape.option shape).read room tree.document =
        (shape.read room tree.document).map some := by
      match tree, whole with
      | .bool _, _ | .number (.int _), _ | .string _, _ | .array _, _ | .object _, _ => rfl
    rw [opened, read]
    rfl

theorem given_string : Shape.string.Given := fun _ => rfl

theorem given_bool : Shape.bool.Given := fun _ => rfl

theorem given_uint32 : Shape.uint32.Given := fun _ => rfl

theorem given_named {name : α → String} {all : List α} : (Shape.named name all).Given := fun _ => rfl

theorem given_record {record : Record α α} {name : String} : (record.shape name).Given := fun _ => rfl

end Shape

namespace Record

theorem collects_memberDocuments {fields : List Field} {room : Nat} {members : List (String × Value)}
    (checked : ∀ member ∈ members, ∃ field, field? fields member.1 = some field ∧
      field.check room member.2.document = .ok ()) (distinct : (Value.keys members).Nodup) :
    Collects fields room (Value.memberDocuments members) ∧
      knownMembers fields (Value.memberDocuments members) =
        members.map fun member => (member.1, member.2.document) := by
  have all : (∀ member ∈ Value.memberDocuments members, Passes fields room member) ∧
      knownMembers fields (Value.memberDocuments members) =
        members.map fun member => (member.1, member.2.document) := by
    clear distinct
    induction members with
    | nil => exact ⟨nofun, rfl⟩
    | cons member members inductionHypothesis =>
        obtain ⟨⟨field, asked, check⟩, checkedMore⟩ := List.forall_mem_cons.mp checked
        obtain ⟨passes, known⟩ := inductionHypothesis checkedMore
        refine ⟨List.forall_mem_cons.mpr ⟨.known asked check, passes⟩, ?_⟩
        rw [Value.memberDocuments, knownMembers_cons_known asked, known, List.map_cons]
  obtain ⟨passes, known⟩ := all
  refine ⟨⟨passes, ?_⟩, known⟩
  simpa [known, Value.keys, Function.comp_def] using distinct

/-- Add a field that is read as one that may be left out, and is written as null instead. -/
def voidable (record : Record σ (Option β → α)) (key : String) (get : σ → Option β)
    (shape : Shape β) (defaulted : Bool) : Record σ α :=
  { record.omittable key get shape defaulted with
    members := fun value => record.members value ++ [(key, shape.option.write (get value))] }

def keys (record : Record σ α) : List String := record.fields.map Field.key

/--
Fields found where written members are, whatever the order of their own members, and no others.
-/
structure Finds (known : List String) (members : List (String × Value))
    (find : String → Option Document) : Prop where
  given : ∀ member ∈ members, ∃ tree, Reordered member.2 tree ∧
    find member.1 = some tree.document
  missing : ∀ key ∈ known, key ∉ Value.keys members → find key = none

/--
The written members of a value that passes make up its result.

`result` says what a record under construction makes of the fields that it has so far.
-/
structure RoundTrips (record : Record σ α) (passes : σ → Prop) (result : σ → α) (need : Nat) :
    Prop where
  written : ∀ value, (Value.keys (record.members value)).Sublist record.keys
  checks : record.keys.Nodup → ∀ value, passes value → ∀ member ∈ record.members value, ∀ tree,
    Reordered member.2 tree → ∀ room, need < room → ∀ field ∈ record.fields,
    field.key = member.1 → field.check room tree.document = .ok ()
  builds : record.keys.Nodup → ∀ value, passes value → ∀ room, need < room →
    ∀ find, Finds record.keys (record.members value) find →
    record.build room find = .ok (result value)

namespace RoundTrips

variable {γ : Type} {passes : σ → Prop} {need : Nat}

theorem start {make : α} : (Record.start (σ := σ) make).RoundTrips passes (fun _ => make) need where
  written _ := List.Sublist.slnil
  checks _ _ _ _ mem := by cases mem
  builds _ _ _ _ _ _ _ := rfl

/--
Add one field, which is written as one member or left out.

The fields before it are found as without it, because its key is none of theirs.
-/
theorem extend {record : Record σ γ} {next : Record σ α} {result : σ → γ} {result' : σ → α}
    (front : record.RoundTrips passes result need) (field : Field)
    (extra : σ → List (String × Value)) (fields : next.fields = record.fields ++ [field])
    (members : ∀ value, next.members value = record.members value ++ extra value)
    (single : ∀ value, (Value.keys (extra value)).Sublist [field.key])
    (check : ∀ value, passes value → ∀ member ∈ extra value, ∀ tree, Reordered member.2 tree →
      ∀ room, need < room → field.check room tree.document = .ok ())
    (build : ∀ value, passes value → ∀ room, need < room → ∀ find,
      record.build room find = .ok (result value) → Finds [field.key] (extra value) find →
      next.build room find = .ok (result' value)) :
    next.RoundTrips passes result' need := by
  have keysOfNext : next.keys = record.keys ++ [field.key] := by simp [Record.keys, fields]
  have keysOfMembers (value : σ) :
      Value.keys (next.members value) = Value.keys (record.members value) ++
        Value.keys (extra value) := by simp [Value.keys, members]
  have split (distinct : next.keys.Nodup) : record.keys.Nodup ∧ field.key ∉ record.keys := by
    rw [keysOfNext, List.nodup_append] at distinct
    exact ⟨distinct.1, fun mem => distinct.2.2 _ mem _ (by simp) rfl⟩
  refine ⟨?_, ?_, ?_⟩
  · intro value
    rw [keysOfNext, keysOfMembers]
    exact (front.written value).append (single value)
  · intro distinct value pass member mem tree same room enough other memOther sameKey
    obtain ⟨distinctFront, fresh⟩ := split distinct
    rw [fields, List.mem_append, List.mem_singleton] at memOther
    rw [members, List.mem_append] at mem
    rcases mem with inFront | inExtra
    · rcases memOther with known | rfl
      · exact front.checks distinctFront value pass member inFront tree same room enough other known
          sameKey
      · have known : member.1 ∈ record.keys :=
          (front.written value).subset (List.mem_map_of_mem inFront)
        exact absurd (sameKey ▸ known) fresh
    · rcases memOther with known | rfl
      · have isNew : member.1 = field.key :=
          List.mem_singleton.mp ((single value).subset (List.mem_map_of_mem inExtra))
        exact absurd (isNew ▸ sameKey ▸ List.mem_map_of_mem known) fresh
      · exact check value pass member inExtra tree same room enough
  · intro distinct value pass room enough find finds
    obtain ⟨distinctFront, fresh⟩ := split distinct
    have notInExtra {key : String} (mem : key ∈ record.keys) : key ∉ Value.keys (extra value) :=
      fun inExtra => fresh (List.mem_singleton.mp ((single value).subset inExtra) ▸ mem)
    have notInFront : field.key ∉ Value.keys (record.members value) :=
      fun mem => fresh ((front.written value).subset mem)
    refine build value pass room enough find
      (front.builds distinctFront value pass room enough find ⟨?_, ?_⟩) ⟨?_, ?_⟩
    · exact fun member mem => finds.given member (by simp [members, mem])
    · intro key known missing
      refine finds.missing key (by simp [keysOfNext, known]) ?_
      rw [keysOfMembers, List.mem_append]
      exact not_or.mpr ⟨missing, notInExtra known⟩
    · exact fun member mem => finds.given member (by simp [members, mem])
    · rintro key known missing
      rw [List.mem_singleton] at known
      subst known
      refine finds.missing field.key (by simp [keysOfNext]) ?_
      rw [keysOfMembers, List.mem_append]
      exact not_or.mpr ⟨notInFront, missing⟩

section

variable {result : σ → β → α} {field : β → Prop} {shape : Shape β} {get : σ → β} {key : String}

theorem required {record : Record σ (β → α)} (front : record.RoundTrips passes result need)
    (inner : shape.RoundTrips field need) (sound : ∀ value, passes value → field (get value)) :
    (record.required key get shape).RoundTrips passes (fun value => result value (get value))
      need := by
  have read {value : σ} (pass : passes value) := inner (get value) (sound value pass)
  refine front.extend (fieldOf key shape false) (fun value => [(key, shape.write (get value))])
    rfl (fun _ => rfl) (fun _ => List.Sublist.refl _) ?_ ?_
  · intro value pass member mem tree same room enough
    obtain rfl := List.mem_singleton.mp mem
    simp only [fieldOf, read pass tree same room enough]
    rfl
  · intro value pass room enough find built finds
    obtain ⟨tree, same, found⟩ := finds.given (key, shape.write (get value)) (by simp)
    simp only [Record.required, built, found, bind, Except.bind, read pass tree same room enough]
    rfl

end

section

variable {result : σ → Option β → α} {field : β → Prop} {shape : Shape β} {get : σ → Option β}
  {key : String}

theorem voidable {record : Record σ (Option β → α)} {defaulted : Bool}
    (front : record.RoundTrips passes result need) (inner : shape.RoundTrips field need)
    (given : shape.Given) (sound : ∀ value, passes value → ∀ some ∈ get value, field some) :
    (record.voidable key get shape defaulted).RoundTrips passes
      (fun value => result value (get value)) need := by
  have read {value : σ} (pass : passes value) := given.option inner (get value) (sound value pass)
  refine front.extend (fieldOf key shape.option defaulted)
    (fun value => [(key, shape.option.write (get value))]) rfl (fun _ => rfl)
    (fun _ => List.Sublist.refl _) ?_ ?_
  · intro value pass member mem tree same room enough
    obtain rfl := List.mem_singleton.mp mem
    simp only [fieldOf, read pass tree same room enough]
    rfl
  · intro value pass room enough find built finds
    obtain ⟨tree, same, found⟩ := finds.given (key, shape.option.write (get value)) (by simp)
    simp only [Record.voidable, Record.omittable, built, found, readOptional, bind, Except.bind,
      read pass tree same room enough]
    rfl

theorem nullable {record : Record σ (Option β → α)}
    (front : record.RoundTrips passes result need) (inner : shape.RoundTrips field need)
    (given : shape.Given) (sound : ∀ value, passes value → ∀ some ∈ get value, field some) :
    (record.nullable key get shape).RoundTrips passes (fun value => result value (get value))
      need :=
  front.voidable inner given sound

theorem omittable {record : Record σ (Option β → α)} {defaulted : Bool}
    (front : record.RoundTrips passes result need) (inner : shape.RoundTrips field need)
    (given : shape.Given) (sound : ∀ value, passes value → ∀ some ∈ get value, field some) :
    (record.omittable key get shape defaulted).RoundTrips passes
      (fun value => result value (get value)) need := by
  have read {value : σ} (pass : passes value) := given.option inner (get value) (sound value pass)
  refine front.extend (fieldOf key shape.option defaulted)
    (fun value => presentMember key shape (get value)) rfl (fun _ => rfl) ?_ ?_ ?_
  · intro value
    cases get value with
    | none => exact List.nil_sublist _
    | some inside => exact List.Sublist.refl _
  · intro value pass member mem tree same room enough
    have read := read pass
    cases present : get value with
    | none =>
        rw [present] at mem
        cases mem
    | some inside =>
        rw [present] at mem read
        obtain rfl := List.mem_singleton.mp mem
        simp only [fieldOf, read tree same room enough]
        rfl
  · intro value pass room enough find built finds
    have read := read pass
    have fetched : readOptional shape room (find key) = .ok (get value) := by
      cases present : get value with
      | none =>
          rw [present] at finds
          rw [finds.missing key (by simp [fieldOf]) (by simp [presentMember, Value.keys])]
          rfl
      | some inside =>
          rw [present] at finds read
          obtain ⟨tree, same, found⟩ := finds.given (key, shape.write inside) (by
            simp [presentMember])
          rw [found]
          exact read tree same room enough
    simp only [Record.omittable, built, fetched, bind, Except.bind]
    rfl

end

theorem readMembers {record : Record σ α} {result : σ → α}
    (trip : record.RoundTrips passes result need) (distinct : record.keys.Nodup) {value : σ}
    (pass : passes value) {others : List (String × Value)}
    (reordered : Reordered (.object (record.members value)) (.object others)) (room : Nat)
    (enough : need < room) :
    record.readMembers room (Value.memberDocuments others) .closed = .ok (result value) := by
  obtain ⟨found, same, order, left, right⟩ := Value.Reordered.members reordered
  obtain rfl := Value.object.inj same
  have distinctMembers := (trip.written value).nodup distinct
  have distinctOthers : (Value.keys others).Nodup := order.nodup_iff.mpr distinctMembers
  have checked : ∀ other ∈ others, ∃ field, field? record.fields other.1 = some field ∧
      field.check room other.2.document = .ok () := by
    intro other mem
    obtain ⟨member, memMembers, sameKey, sameValue⟩ := right other mem
    have known : other.1 ∈ record.keys :=
      sameKey ▸ (trip.written value).subset (List.mem_map_of_mem memMembers)
    obtain ⟨field, memField, ofKey, found⟩ := field?_of_mem known
    exact ⟨field, found, trip.checks distinct value pass member memMembers other.2 sameValue room
      enough field memField (ofKey.trans sameKey)⟩
  obtain ⟨collects, known⟩ := collects_memberDocuments checked distinctOthers
  rw [readMembers_of_collects collects, known]
  refine trip.builds distinct value pass room enough _ ⟨?_, ?_⟩
  · intro member mem
    obtain ⟨other, memOthers, sameKey, sameValue⟩ := left member mem
    refine ⟨other.2, sameValue, lookup_of_mem ?_ ?_⟩
    · simpa [Value.keys, Function.comp_def] using distinctOthers
    · exact List.mem_map.mpr ⟨other, memOthers, by rw [sameKey]⟩
  · intro key _ missing
    refine lookup_eq_none fun mem => missing (order.mem_iff.mp ?_)
    simpa [Value.keys] using mem

theorem shape {record : Record α α} {passes : α → Prop} {result : α → α} {name : String}
    (trip : record.RoundTrips passes result need) (distinct : record.keys.Nodup)
    (same : ∀ value, result value = value) :
    (record.shape name).RoundTrips passes (need + 1) := by
  intro value pass tree reordered room enough
  obtain ⟨others, rfl, -⟩ := Value.Reordered.members reordered
  have read := trip.readMembers distinct pass reordered (room - 1) (by omega)
  simpa only [Record.shape, Value.document, same] using read

end RoundTrips

end Record

end ReportCharts.Json
