import Mathlib.Data.List.Perm.Basic
import ReportCharts.Json.Record

/-!
What a record makes of the members of an object that is closed.

Every member has to pass, and no known key may come twice. Then the record is built from the members
with known keys, so neither their order nor what else the object holds has a part in it.
-/

namespace ReportCharts.Json

theorem bind_eq_ok {ε α β : Type} {first : Except ε α} {next : α → Except ε β} {result : β}
    (ran : first >>= next = .ok result) : ∃ value, first = .ok value ∧ next value = .ok result := by
  cases first with
  | error fault => cases ran
  | ok value => exact ⟨value, rfl, ran⟩

namespace Record

variable {σ α β : Type} {fields : List Field} {room : Nat}

theorem lookup_of_mem {found : List (String × Document)} {key : String} {document : Document}
    (distinct : (found.map Prod.fst).Nodup) (mem : (key, document) ∈ found) :
    lookup found key = some document := by
  induction found with
  | nil => cases mem
  | cons entry found inductionHypothesis =>
      obtain ⟨fresh, distinctRest⟩ := List.nodup_cons.mp distinct
      rcases List.mem_cons.mp mem with rfl | behind
      · simp [lookup]
      · have other : entry.1 ≠ key := fun same =>
          fresh (List.mem_map.mpr ⟨(key, document), behind, same.symm⟩)
        have rest := inductionHypothesis distinctRest behind
        simpa [lookup, other] using rest

theorem lookup_eq_none {found : List (String × Document)} {key : String}
    (fresh : key ∉ found.map Prod.fst) : lookup found key = none := by
  simp only [lookup, Option.map_eq_none_iff, List.find?_eq_none, beq_iff_eq]
  exact fun entry mem same => fresh (List.mem_map.mpr ⟨entry, mem, same⟩)

theorem isSome_field?_iff {key : String} :
    (field? fields key).isSome = true ↔ key ∈ fields.map Field.key := by
  simp [field?, List.find?_isSome]

theorem field?_of_mem {key : String} (mem : key ∈ fields.map Field.key) :
    ∃ field ∈ fields, field.key = key ∧ field? fields key = some field := by
  obtain ⟨field, found⟩ := Option.isSome_iff_exists.mp (isSome_field?_iff.mpr mem)
  exact ⟨field, List.mem_of_find?_eq_some found, by simpa using List.find?_some found, found⟩

def knownMembers (fields : List Field) (members : List (Except Fault String × Document)) :
    List (String × Document) :=
  members.filterMap fun member =>
    match member.1 with
    | .ok key => if (field? fields key).isSome then some (key, member.2) else none
    | .error _ => none

/-- A member that a reader gets past. -/
inductive Passes (fields : List Field) (room : Nat) : Except Fault String × Document → Prop
  | known {key : String} {field : Field} {document : Document} (asked : field? fields key = some field)
      (checked : field.check room document = .ok ()) : Passes fields room (.ok key, document)
  | unknown {key : String} {document : Document} (unasked : field? fields key = none)
      (skipped : document.skip = .ok ()) : Passes fields room (.ok key, document)

section

variable {members more : List (Except Fault String × Document)} {key : String} {document : Document}

theorem knownMembers_append :
    knownMembers fields (members ++ more) = knownMembers fields members ++ knownMembers fields more :=
  List.filterMap_append

theorem knownMembers_cons_known {field : Field} (asked : field? fields key = some field) :
    knownMembers fields ((.ok key, document) :: members) =
      (key, document) :: knownMembers fields members := by
  simp [knownMembers, asked]

theorem knownMembers_cons_unknown (unasked : field? fields key = none) :
    knownMembers fields ((.ok key, document) :: members) = knownMembers fields members := by
  simp [knownMembers, unasked]

theorem mem_knownMembers_iff :
    (key, document) ∈ knownMembers fields members ↔
      (.ok key, document) ∈ members ∧ (field? fields key).isSome = true := by
  rw [knownMembers, List.mem_filterMap]
  constructor
  · rintro ⟨⟨read, value⟩, member, kept⟩
    cases read with
    | error fault => cases kept
    | ok read =>
        simp only [Option.ite_none_right_eq_some, Option.some.injEq, Prod.mk.injEq] at kept
        obtain ⟨asked, rfl, rfl⟩ := kept
        exact ⟨member, asked⟩
  · rintro ⟨member, asked⟩
    exact ⟨(.ok key, document), member, by simp [asked]⟩

theorem collect_of_passes (sofar : List (String × Document))
    (passes : ∀ member ∈ members, Passes fields room member)
    (distinct : ((sofar ++ knownMembers fields members).map Prod.fst).Nodup) :
    collect fields room sofar members = .ok (sofar ++ knownMembers fields members) := by
  -- What was collected before grows with every known member, so it has to stay general.
  induction members generalizing sofar with
  | nil => simp [collect, knownMembers]
  | cons member members inductionHypothesis =>
      obtain ⟨passesFirst, passesMore⟩ := List.forall_mem_cons.mp passes
      cases passesFirst with
      | @known key field document asked checked =>
          rw [knownMembers_cons_known asked] at distinct ⊢
          have fresh : (sofar.any fun entry => entry.1 == key) = false := by
            rw [List.any_eq_false]
            intro entry member same
            rw [List.map_append, List.nodup_append] at distinct
            exact distinct.2.2 entry.1 (List.mem_map_of_mem member) key (by simp) (by simpa using same)
          have readMore := inductionHypothesis (sofar ++ [(key, document)]) passesMore
            (by simpa using distinct)
          simp only [collect, bind, Except.bind, asked, fresh, checked]
          simpa using readMore
      | unknown unasked skipped =>
          rw [knownMembers_cons_unknown unasked] at distinct ⊢
          simp only [collect, bind, Except.bind, unasked, skipped]
          exact inductionHypothesis sofar passesMore distinct

theorem passes_of_collect (sofar : List (String × Document)) {found : List (String × Document)}
    (distinct : (sofar.map Prod.fst).Nodup) (read : collect fields room sofar members = .ok found) :
    (∀ member ∈ members, Passes fields room member) ∧
      ((sofar ++ knownMembers fields members).map Prod.fst).Nodup := by
  induction members generalizing sofar with
  | nil => exact ⟨nofun, by simpa [knownMembers] using distinct⟩
  | cons member members inductionHypothesis =>
      obtain ⟨name, document⟩ := member
      obtain ⟨key, legible, kept⟩ := bind_eq_ok read
      subst legible
      split at kept
      · next field asked =>
          split at kept
          · cases kept
          · next fresh =>
              obtain ⟨_, checked, readMore⟩ := bind_eq_ok kept
              have distinctNext : ((sofar ++ [(key, document)]).map Prod.fst).Nodup := by
                simp only [Bool.not_eq_true, List.any_eq_false, beq_iff_eq] at fresh
                rw [List.map_append, List.nodup_append]
                refine ⟨distinct, List.pairwise_singleton _ _, ?_⟩
                intro other member last here
                obtain ⟨entry, among, rfl⟩ := List.mem_map.mp member
                exact fun same => fresh entry among (same.trans (List.mem_singleton.mp here))
              obtain ⟨passes, distinctAll⟩ := inductionHypothesis _ distinctNext readMore
              rw [knownMembers_cons_known asked]
              exact ⟨List.forall_mem_cons.mpr ⟨.known asked checked, passes⟩, by simpa using distinctAll⟩
      · next unasked =>
          obtain ⟨_, skipped, readMore⟩ := bind_eq_ok kept
          obtain ⟨passes, distinctAll⟩ := inductionHypothesis sofar distinct readMore
          rw [knownMembers_cons_unknown unasked]
          exact ⟨List.forall_mem_cons.mpr ⟨.unknown unasked skipped, passes⟩, distinctAll⟩

end

/-- All members pass and no known key comes twice. -/
structure Collects (fields : List Field) (room : Nat)
    (members : List (Except Fault String × Document)) : Prop where
  passes : ∀ member ∈ members, Passes fields room member
  distinct : ((knownMembers fields members).map Prod.fst).Nodup

variable {record : Record σ α} {members first second : List (Except Fault String × Document)}

theorem readMembers_of_collects (collects : Collects record.fields room members) :
    record.readMembers room members .closed =
      record.build room (lookup (knownMembers record.fields members)) := by
  rw [readMembers, collect_of_passes [] collects.passes collects.distinct]
  rfl

theorem toOption_readMembers_of_not_collects (stuck : ¬Collects record.fields room members) :
    (record.readMembers room members .closed).toOption = none := by
  cases read : record.readMembers room members .closed with
  | error fault => rfl
  | ok value =>
      obtain ⟨found, collected, -⟩ := bind_eq_ok read
      obtain ⟨passes, distinct⟩ := passes_of_collect [] List.nodup_nil collected
      exact absurd ⟨passes, distinct⟩ stuck

theorem lookup_perm {first second : List (String × Document)} (order : first.Perm second)
    (distinct : (first.map Prod.fst).Nodup) : lookup first = lookup second := by
  funext key
  have distinctSecond := ((order.map Prod.fst).nodup_iff).mp distinct
  by_cases present : key ∈ first.map Prod.fst
  · obtain ⟨⟨_, document⟩, member, rfl⟩ := List.mem_map.mp present
    rw [lookup_of_mem distinct member, lookup_of_mem distinctSecond (order.mem_iff.mp member)]
  · have absent : key ∉ second.map Prod.fst :=
      fun member => present ((order.map Prod.fst).mem_iff.mpr member)
    rw [lookup_eq_none present, lookup_eq_none absent]

/-- Members that stop a reader or not, and of which the known ones are the same up to their order. -/
structure Alike (fields : List Field) (room : Nat)
    (first second : List (Except Fault String × Document)) : Prop where
  passes : (∀ member ∈ first, Passes fields room member) ↔ ∀ member ∈ second, Passes fields room member
  known : (knownMembers fields first).Perm (knownMembers fields second)

namespace Alike

theorem symm (alike : Alike fields room first second) : Alike fields room second first :=
  ⟨alike.passes.symm, alike.known.symm⟩

theorem trans {third : List (Except Fault String × Document)} (alike : Alike fields room first second)
    (alikeToo : Alike fields room second third) : Alike fields room first third :=
  ⟨alike.passes.trans alikeToo.passes, alike.known.trans alikeToo.known⟩

theorem of_perm (order : first.Perm second) : Alike fields room first second where
  passes := by simp only [order.mem_iff]
  known := order.filterMap _

theorem insert_unknown {key : String} {document : Document} (unasked : field? fields key = none)
    (skipped : document.skip = .ok ()) (before after : List (Except Fault String × Document)) :
    Alike fields room (before ++ after) (before ++ (.ok key, document) :: after) where
  passes := by
    have passes : Passes fields room (.ok key, document) := .unknown unasked skipped
    simp only [List.forall_mem_append, List.forall_mem_cons, passes, true_and]
  known := by
    rw [knownMembers_append, knownMembers_append, knownMembers_cons_unknown unasked]

theorem collects (alike : Alike fields room first second) (collects : Collects fields room first) :
    Collects fields room second :=
  ⟨alike.passes.mp collects.passes, ((alike.known.map Prod.fst).nodup_iff).mp collects.distinct⟩

/-- Members that are alike give the same, or both give nothing. -/
theorem toOption_readMembers (alike : Alike record.fields room first second) :
    (record.readMembers room first .closed).toOption =
      (record.readMembers room second .closed).toOption := by
  by_cases collects : Collects record.fields room first
  · rw [readMembers_of_collects collects, readMembers_of_collects (alike.collects collects),
      lookup_perm alike.known collects.distinct]
  · have stuck : ¬Collects record.fields room second :=
      fun collectsSecond => collects (alike.symm.collects collectsSecond)
    rw [toOption_readMembers_of_not_collects collects, toOption_readMembers_of_not_collects stuck]

end Alike

/-- In a record, null stands for a field that is missing. -/
structure TakesNull (record : Record σ α) : Prop where
  checks : ∀ field ∈ record.fields, ∀ room, field.check room .null = .ok ()
  builds : ∀ room (find other : String → Option Document),
    (∀ key, find key = other key ∨ find key = some .null ∧ other key = none) →
      record.build room find = record.build room other

namespace TakesNull

theorem start {make : α} : (Record.start (σ := σ) make).TakesNull where
  checks _ member := by cases member
  builds _ _ _ _ := rfl

theorem omittable {record : Record σ (Option β → α)} (front : record.TakesNull) (key : String)
    (get : σ → Option β) (shape : Shape β) (defaulted : Bool) :
    (record.omittable key get shape defaulted).TakesNull where
  checks field member room := by
    rcases List.mem_append.mp member with earlier | last
    · exact front.checks field earlier room
    · obtain rfl := List.mem_singleton.mp last
      rfl
  builds room find other same := by
    have optional : readOptional shape room (find key) = readOptional shape room (other key) := by
      rcases same key with alike | ⟨isNull, missing⟩
      · rw [alike]
      · rw [isNull, missing]
        rfl
    simp only [Record.omittable, front.builds room find other same, optional]

end TakesNull

/-- A null of a known key that comes but once may as well be left out. -/
theorem toOption_readMembers_null (takesNull : record.TakesNull)
    {before after : List (Except Fault String × Document)} {key : String}
    (asked : (field? record.fields key).isSome = true)
    (once : ∀ member ∈ before ++ after, member.1 ≠ .ok key) :
    (record.readMembers room (before ++ (.ok key, .null) :: after) .closed).toOption =
      (record.readMembers room (before ++ after) .closed).toOption := by
  obtain ⟨field, asked⟩ := Option.isSome_iff_exists.mp asked
  have nullPasses : Passes record.fields room (.ok key, .null) :=
    .known asked (takesNull.checks field (List.mem_of_find?_eq_some asked) room)
  have passes : (∀ member ∈ before ++ (.ok key, .null) :: after, Passes record.fields room member) ↔
      ∀ member ∈ before ++ after, Passes record.fields room member := by
    simp only [List.forall_mem_append, List.forall_mem_cons, nullPasses, true_and]
  have known : (knownMembers record.fields (before ++ (.ok key, .null) :: after)).Perm
      ((key, .null) :: knownMembers record.fields (before ++ after)) := by
    rw [knownMembers_append, knownMembers_append, knownMembers_cons_known asked]
    exact List.perm_middle
  have fresh : key ∉ (knownMembers record.fields (before ++ after)).map Prod.fst := by
    rintro member
    obtain ⟨⟨_, document⟩, among, rfl⟩ := List.mem_map.mp member
    exact once _ (mem_knownMembers_iff.mp among).1 rfl
  have distinct : ((knownMembers record.fields (before ++ (.ok key, .null) :: after)).map
      Prod.fst).Nodup ↔ ((knownMembers record.fields (before ++ after)).map Prod.fst).Nodup := by
    rw [(known.map Prod.fst).nodup_iff, List.map_cons, List.nodup_cons]
    exact and_iff_right fresh
  by_cases collects : Collects record.fields room (before ++ after)
  · have collectsNull : Collects record.fields room (before ++ (.ok key, .null) :: after) :=
      ⟨passes.mpr collects.passes, distinct.mpr collects.distinct⟩
    rw [readMembers_of_collects collects, readMembers_of_collects collectsNull]
    -- The two look-ups differ in this key alone, where one finds null and the other nothing.
    refine congrArg Except.toOption (takesNull.builds room _ _ ?_)
    intro other
    rw [lookup_perm known collectsNull.distinct]
    by_cases same : other = key
    · subst same
      exact .inr ⟨by simp [lookup], lookup_eq_none fresh⟩
    · exact .inl (by simp [lookup, Ne.symm same])
  · have stuck : ¬Collects record.fields room (before ++ (.ok key, .null) :: after) := by
      rintro ⟨passesNull, distinctNull⟩
      exact collects ⟨passes.mp passesNull, distinct.mp distinctNull⟩
    rw [toOption_readMembers_of_not_collects collects, toOption_readMembers_of_not_collects stuck]

theorem toOption_readMembers_twice {key : String} (asked : (field? record.fields key).isSome = true)
    {before between after : List (Except Fault String × Document)} (once again : Document) :
    (record.readMembers room (before ++ (.ok key, once) :: (between ++ (.ok key, again) :: after))
      .closed).toOption = none := by
  obtain ⟨field, asked⟩ := Option.isSome_iff_exists.mp asked
  apply toOption_readMembers_of_not_collects
  rintro ⟨-, distinct⟩
  rw [knownMembers_append, knownMembers_cons_known asked, knownMembers_append,
    knownMembers_cons_known asked, List.map_append, List.nodup_append] at distinct
  refine (List.nodup_cons.mp distinct.2.1).1 ?_
  simp

end Record

end ReportCharts.Json
