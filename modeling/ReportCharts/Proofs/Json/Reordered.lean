import Mathlib.Data.List.Perm.Basic
import ReportCharts.Proofs.Json.Members
import ReportCharts.Proofs.Json.Text

/-!
Values that differ in nothing but the order of the members of their objects.

A writer keeps members in the order of the fields, a tree of values keeps them in the order of
their keys; a reader has to take either. Read as a value, each of them is the one with sorted keys.
-/

namespace ReportCharts.Json

open Document

namespace Value

mutual

/-- The same value with the members of its objects in any order. -/
def Reordered : Value → Value → Prop
  | .array items, tree => ∃ others, tree = .array others ∧ ItemsReordered items others
  | .object members, tree => ∃ arranged others, tree = .object others ∧
      MembersReordered members arranged ∧ arranged.Perm others
  | value, tree => tree = value

def ItemsReordered : List Value → List Value → Prop
  | [], others => others = []
  | item :: items, others => ∃ other rest, others = other :: rest ∧ Reordered item other ∧
      ItemsReordered items rest

def MembersReordered : List (String × Value) → List (String × Value) → Prop
  | [], others => others = []
  | (key, value) :: members, others => ∃ other rest, others = (key, other) :: rest ∧
      Reordered value other ∧ MembersReordered members rest

end

/-- Two members with one key and values that differ in order only. -/
def SameMember (member other : String × Value) : Prop :=
  other.1 = member.1 ∧ Reordered member.2 other.2

theorem membersReordered_iff {members others : List (String × Value)} :
    MembersReordered members others ↔ List.Forall₂ SameMember members others := by
  induction members generalizing others with
  | nil => simp [MembersReordered]
  | cons member members inductionHypothesis =>
      obtain ⟨key, value⟩ := member
      simp only [MembersReordered, List.forall₂_cons_left_iff, SameMember]
      constructor
      · rintro ⟨other, rest, rfl, same, more⟩
        exact ⟨(key, other), rest, ⟨rfl, same⟩, inductionHypothesis.mp more, rfl⟩
      · rintro ⟨⟨_, other⟩, rest, ⟨rfl, same⟩, more, rfl⟩
        exact ⟨other, rest, rfl, same, inductionHypothesis.mpr more⟩

theorem reordered_object_iff {members : List (String × Value)} {tree : Value} :
    Reordered (.object members) tree ↔ ∃ ordered others, tree = .object others ∧
      ordered.Perm members ∧ List.Forall₂ SameMember ordered others := by
  simp only [Reordered, membersReordered_iff]
  constructor
  · rintro ⟨arranged, others, rfl, same, order⟩
    obtain ⟨ordered, orderOfMembers, sameInOrder⟩ :=
      (List.forall₂_comp_perm_eq_perm_comp_forall₂ (r := SameMember) ▸ ⟨arranged, same, order⟩ :
        Relation.Comp List.Perm (List.Forall₂ SameMember) members others)
    exact ⟨ordered, others, rfl, orderOfMembers.symm, sameInOrder⟩
  · rintro ⟨ordered, others, rfl, order, same⟩
    obtain ⟨arranged, sameMembers, orderOfOthers⟩ := List.perm_comp_forall₂ order.symm same
    exact ⟨arranged, others, rfl, sameMembers, orderOfOthers⟩

theorem Reordered.members {members : List (String × Value)} {tree : Value}
    (same : Reordered (.object members) tree) : ∃ others, tree = .object others ∧
      (keys others).Perm (keys members) ∧
      (∀ member ∈ members, ∃ other ∈ others, SameMember member other) ∧
      ∀ other ∈ others, ∃ member ∈ members, SameMember member other := by
  obtain ⟨ordered, others, rfl, order, sameInOrder⟩ := reordered_object_iff.mp same
  have found : keys others = keys ordered ∧
      (∀ member ∈ ordered, ∃ other ∈ others, SameMember member other) ∧
      ∀ other ∈ others, ∃ member ∈ ordered, SameMember member other := by
    clear same order
    induction sameInOrder with
    | nil => simp
    | cons first _ inductionHypothesis =>
        obtain ⟨sameKeys, left, right⟩ := inductionHypothesis
        refine ⟨by simp [keys, first.1] at sameKeys ⊢; exact sameKeys, ?_, ?_⟩
        · simpa using ⟨.inl first, fun key value mem => .inr (by simpa using left _ mem)⟩
        · simpa using ⟨.inl first, fun key value mem => .inr (by simpa using right _ mem)⟩
  obtain ⟨sameKeys, left, right⟩ := found
  refine ⟨others, rfl, sameKeys ▸ order.map Prod.fst, ?_, ?_⟩
  · exact fun member mem => left member (order.mem_iff.mpr mem)
  · intro other mem
    obtain ⟨member, memOrdered, sameMember⟩ := right other mem
    exact ⟨member, order.mem_iff.mp memOrdered, sameMember⟩

mutual

theorem Reordered.refl : ∀ value : Value, Reordered value value
  | .null | .bool _ | .number _ | .string _ => rfl
  | .array items => ⟨items, rfl, ItemsReordered.refl items⟩
  | .object members => ⟨members, members, rfl, MembersReordered.refl members, .refl _⟩

theorem ItemsReordered.refl : ∀ items : List Value, ItemsReordered items items
  | [] => rfl
  | item :: items => ⟨item, items, rfl, Reordered.refl item, ItemsReordered.refl items⟩

theorem MembersReordered.refl : ∀ members : List (String × Value), MembersReordered members members
  | [] => rfl
  | (_, value) :: members =>
      ⟨value, members, rfl, Reordered.refl value, MembersReordered.refl members⟩

end

/-- Whether a value is something that a reader of options takes for given. -/
def isGiven : Value → Bool
  | .null | .number (.float _) => false
  | _ => true

theorem Reordered.isGiven {value tree : Value} (same : Reordered value tree) :
    tree.isGiven = value.isGiven := by
  cases value with
  | null | bool _ | number _ | string _ => rw [show tree = _ from same]
  | array items =>
      obtain ⟨others, rfl, -⟩ := same
      rfl
  | object members =>
      obtain ⟨arranged, others, rfl, -⟩ := same
      rfl

mutual

def depth : Value → Nat
  | .array items => itemsDepth items + 1
  | .object members => membersDepth members + 1
  | _ => 0

def itemsDepth : List Value → Nat
  | [] => 0
  | item :: rest => max item.depth (itemsDepth rest)

def membersDepth : List (String × Value) → Nat
  | [] => 0
  | (_, value) :: rest => max value.depth (membersDepth rest)

end

theorem membersDepth_le_iff {members : List (String × Value)} {limit : Nat} :
    membersDepth members ≤ limit ↔ ∀ member ∈ members, member.2.depth ≤ limit := by
  induction members with
  | nil => simp [membersDepth]
  | cons member members inductionHypothesis =>
      rw [membersDepth, Nat.max_le, inductionHypothesis, List.forall_mem_cons]

mutual

theorem Reordered.depth_le : ∀ {value tree : Value}, Reordered value tree → tree.depth ≤ value.depth
  | .null, _, rfl | .bool _, _, rfl | .number _, _, rfl | .string _, _, rfl => Nat.le_refl _
  | .array items, _, ⟨_, rfl, same⟩ => by
      simpa only [depth, Nat.add_le_add_iff_right] using ItemsReordered.depth_le same
  | .object members, _, ⟨arranged, others, rfl, same, order⟩ => by
      have arrangedDepth := membersDepth_le_iff.mp (MembersReordered.depth_le same)
      have othersDepth : membersDepth others ≤ membersDepth members :=
        membersDepth_le_iff.mpr fun member mem => arrangedDepth member (order.mem_iff.mpr mem)
      simpa only [depth, Nat.add_le_add_iff_right] using othersDepth

theorem ItemsReordered.depth_le : ∀ {items others : List Value},
    ItemsReordered items others → itemsDepth others ≤ itemsDepth items
  | [], _, rfl => Nat.le_refl _
  | _ :: _, _, ⟨_, _, rfl, same, more⟩ => by
      have first := Reordered.depth_le same
      have rest := ItemsReordered.depth_le more
      simp only [itemsDepth]
      omega

theorem MembersReordered.depth_le : ∀ {members others : List (String × Value)},
    MembersReordered members others → membersDepth others ≤ membersDepth members
  | [], _, rfl => Nat.le_refl _
  | (_, _) :: _, _, ⟨_, _, rfl, same, more⟩ => by
      have first := Reordered.depth_le same
      have rest := MembersReordered.depth_le more
      simp only [membersDepth]
      omega

end

mutual

theorem exists_value : ∀ (tree : Value) (room : Nat), tree.depth < room →
    ∃ value, tree.document.value room = .ok value
  | .null, _, _ => ⟨_, rfl⟩
  | .bool _, _, _ => ⟨_, rfl⟩
  | .string _, _, _ => ⟨_, rfl⟩
  | .number (.int _), _, _ => ⟨_, rfl⟩
  | .number (.float value), room, _ => by
      rw [document]
      split
      · exact ⟨_, rfl⟩
      · exact ⟨_, rfl⟩
  | .array items, room, shallow => by
      simp only [depth] at shallow
      obtain ⟨values, read⟩ := exists_itemValues items (room - 1) (by omega)
      refine ⟨.array values, ?_⟩
      rw [document, Document.value, if_neg (by omega), read]
      rfl
  | .object members, room, shallow => by
      simp only [depth] at shallow
      obtain ⟨values, read⟩ := exists_memberValues members (room - 1) [] (by omega)
      refine ⟨.object values, ?_⟩
      rw [document, Document.value, if_neg (by omega), read]
      rfl

theorem exists_itemValues : ∀ (items : List Value) (room : Nat), itemsDepth items < room →
    ∃ values, Document.itemValues room (itemDocuments items) = .ok values
  | [], _, _ => ⟨[], rfl⟩
  | item :: items, room, shallow => by
      simp only [itemsDepth] at shallow
      obtain ⟨value, readFirst⟩ := exists_value item room (by omega)
      obtain ⟨values, readMore⟩ := exists_itemValues items room (by omega)
      refine ⟨value :: values, ?_⟩
      rw [itemDocuments, Document.itemValues, readFirst, readMore]
      rfl

theorem exists_memberValues : ∀ (members : List (String × Value)) (room : Nat)
    (sofar : List (String × Value)), membersDepth members < room →
    ∃ values, Document.memberValues room sofar (memberDocuments members) = .ok values
  | [], _, sofar, _ => ⟨sofar, rfl⟩
  | (key, content) :: members, room, sofar, shallow => by
      simp only [membersDepth] at shallow
      obtain ⟨value, readFirst⟩ := exists_value content room (by omega)
      obtain ⟨values, readMore⟩ :=
        exists_memberValues members room (insertMember key value sofar) (by omega)
      refine ⟨values, ?_⟩
      rw [memberDocuments, Document.memberValues, readFirst]
      exact readMore

end

theorem check_document {tree : Value} {room : Nat} (shallow : tree.depth < room) :
    tree.document.check room = .ok () := by
  obtain ⟨value, read⟩ := exists_value tree room shallow
  rw [check, read]
  rfl

mutual

def Sorted : Value → Prop
  | .array items => ItemsSorted items
  | .object members => Ascending members ∧ MembersSorted members
  | _ => True

def ItemsSorted : List Value → Prop
  | [] => True
  | item :: rest => item.Sorted ∧ ItemsSorted rest

def MembersSorted : List (String × Value) → Prop
  | [] => True
  | (_, value) :: rest => value.Sorted ∧ MembersSorted rest

end

theorem memberValues_of_forall₂ {members others : List (String × Value)} {room : Nat}
    (same : List.Forall₂ SameMember members others)
    (reads : ∀ member ∈ members, ∀ tree, Reordered member.2 tree →
      tree.document.value room = .ok member.2) (sofar : List (String × Value)) :
    Document.memberValues room sofar (memberDocuments others) = .ok (insertAll sofar members) := by
  induction same generalizing sofar with
  | nil => rfl
  | @cons member other members others first _ inductionHypothesis =>
      obtain ⟨key, tree⟩ := other
      obtain ⟨rfl, sameValue⟩ := first
      have readFirst := reads member (by simp) tree sameValue
      have readMore := inductionHypothesis (fun member mem => reads member (by simp [mem]))
        (insertMember member.1 member.2 sofar)
      rw [memberDocuments, Document.memberValues, readFirst]
      exact readMore

mutual

/-- Whatever the order of its members, a value is read as the one with sorted keys. -/
theorem value_of_reordered : ∀ {value tree : Value} (room : Nat), value.Sorted → value.Whole →
    value.depth < room → Reordered value tree → tree.document.value room = .ok value
  | .null, _, _, _, _, _, rfl | .bool _, _, _, _, _, _, rfl | .string _, _, _, _, _, _, rfl
  | .number (.int _), _, _, _, _, _, rfl => rfl
  | .number (.float _), _, _, _, whole, _, _ => whole.elim
  | .array items, _, room, sorted, whole, shallow, ⟨others, rfl, same⟩ => by
      simp only [depth] at shallow
      have read := itemValues_of_reordered (room - 1) sorted whole (by omega) same
      rw [document, Document.value, if_neg (by omega), read]
      rfl
  | .object members, tree, room, sorted, whole, shallow, same => by
      obtain ⟨ordered, others, rfl, order, sameMembers⟩ := reordered_object_iff.mp same
      simp only [depth] at shallow
      have reads := memberValues_of_reordered (room - 1) sorted.2 whole (by omega)
      have read := memberValues_of_forall₂ sameMembers
        (fun member mem => reads member (order.mem_iff.mp mem)) []
      rw [insertAll_of_perm sorted.1 order] at read
      rw [document, Document.value, if_neg (by omega), read]
      rfl

theorem itemValues_of_reordered : ∀ {items others : List Value} (room : Nat), ItemsSorted items →
    ItemsWhole items → itemsDepth items < room → ItemsReordered items others →
    Document.itemValues room (itemDocuments others) = .ok items
  | [], _, _, _, _, _, rfl => rfl
  | item :: items, _, room, sorted, whole, shallow, ⟨other, rest, rfl, same, more⟩ => by
      simp only [itemsDepth] at shallow
      have readFirst := value_of_reordered room sorted.1 whole.1 (by omega) same
      have readMore := itemValues_of_reordered room sorted.2 whole.2 (by omega) more
      rw [itemDocuments, Document.itemValues, readFirst, readMore]
      rfl

theorem memberValues_of_reordered : ∀ {members : List (String × Value)} (room : Nat),
    MembersSorted members → MembersWhole members → membersDepth members < room →
    ∀ member ∈ members, ∀ tree, Reordered member.2 tree →
      tree.document.value room = .ok member.2
  | (_, value) :: members, room, sorted, whole, shallow, member, mem, tree, same => by
      simp only [membersDepth] at shallow
      have shallowFirst : value.depth < room := by omega
      rcases List.mem_cons.mp mem with rfl | behind
      · exact value_of_reordered room sorted.1 whole.1 shallowFirst same
      · exact memberValues_of_reordered room sorted.2 whole.2 (by omega) member behind tree same

end

end Value

end ReportCharts.Json
