import ReportCharts.Json.Value

/-!
Members of objects, kept in the order of their keys.

Setting members one after the other sorts them, whatever order they come in, and keeps all of them
when no key comes twice.
-/

namespace ReportCharts.Json.Value

variable {members : List (String × Value)} {key : String} {value : Value}

def keys (members : List (String × Value)) : List String := members.map Prod.fst

/-- The keys increase, so none of them comes twice. -/
def Ascending (members : List (String × Value)) : Prop := (keys members).Pairwise (· < ·)

instance (members : List (String × Value)) : Decidable (Ascending members) :=
  inferInstanceAs (Decidable ((keys members).Pairwise (· < ·)))

theorem Ascending.nodup (ascending : Ascending members) : (keys members).Nodup :=
  List.Pairwise.imp String.ne_of_lt ascending

theorem insertMember_perm (fresh : key ∉ keys members) :
    (insertMember key value members).Perm ((key, value) :: members) := by
  induction members with
  | nil => rfl
  | cons member rest inductionHypothesis =>
      obtain ⟨other, old⟩ := member
      have distinct : key ≠ other := fun same => fresh (by simp [keys, same])
      have freshRest : key ∉ keys rest := fun member => fresh (List.mem_cons_of_mem _ member)
      rw [insertMember, if_neg distinct]
      split
      · rfl
      · exact ((inductionHypothesis freshRest).cons _).trans (List.Perm.swap _ _ rest)

theorem mem_keys_insertMember {other : String}
    (member : other ∈ keys (insertMember key value members)) : other = key ∨ other ∈ keys members := by
  induction members with
  | nil => exact .inl (by simpa [insertMember, keys] using member)
  | cons first rest inductionHypothesis =>
      obtain ⟨next, old⟩ := first
      rw [insertMember] at member
      split at member
      · simpa [keys] using member
      split at member
      · next same =>
          subst same
          exact .inr (by simpa [keys] using member)
      · rcases List.mem_cons.mp member with here | behind
        · exact .inr (by simp [keys, here])
        · exact (inductionHypothesis behind).imp_right (List.mem_cons_of_mem _)

theorem ascending_insertMember (ascending : Ascending members) :
    Ascending (insertMember key value members) := by
  induction members with
  | nil => exact List.pairwise_singleton _ _
  | cons first rest inductionHypothesis =>
      obtain ⟨next, old⟩ := first
      obtain ⟨least, ascendingRest⟩ := List.pairwise_cons.mp ascending
      rw [insertMember]
      split
      · next before =>
          refine List.pairwise_cons.mpr ⟨fun other member => ?_, ascending⟩
          rcases List.mem_cons.mp member with rfl | behind
          · exact before
          · exact String.lt_trans before (least other behind)
      split
      · next same =>
          subst same
          exact ascending
      · next notBefore distinct =>
          have after : next < key :=
            Std.lt_of_le_of_ne (String.not_lt.mp notBefore) (Ne.symm distinct)
          refine List.pairwise_cons.mpr ⟨fun other member => ?_, inductionHypothesis ascendingRest⟩
          rcases mem_keys_insertMember member with rfl | old
          · exact after
          · exact least other old

def insertAll (sofar members : List (String × Value)) : List (String × Value) :=
  members.foldl (fun sofar member => insertMember member.1 member.2 sofar) sofar

theorem insertAll_perm (sofar : List (String × Value)) (distinct : (keys (sofar ++ members)).Nodup) :
    (insertAll sofar members).Perm (sofar ++ members) := by
  induction members generalizing sofar with
  | nil => simp [insertAll]
  | cons member rest inductionHypothesis =>
      have front : (keys (member :: (sofar ++ rest))).Nodup :=
        (List.perm_middle.map Prod.fst).nodup_iff.mp distinct
      have fresh : member.1 ∉ keys sofar := fun mem =>
        (List.nodup_cons.mp front).1 (by simp_all [keys])
      have inserted : (insertMember member.1 member.2 sofar).Perm (member :: sofar) :=
        insertMember_perm fresh
      have distinctRest : (keys (insertMember member.1 member.2 sofar ++ rest)).Nodup :=
        ((inserted.append_right rest).map Prod.fst).nodup_iff.mpr front
      exact (inductionHypothesis _ distinctRest).trans
        ((inserted.append_right rest).trans List.perm_middle.symm)

theorem ascending_insertAll (sofar : List (String × Value)) (ascending : Ascending sofar) :
    Ascending (insertAll sofar members) := by
  induction members generalizing sofar with
  | nil => exact ascending
  | cons member rest inductionHypothesis =>
      exact inductionHypothesis _ (ascending_insertMember ascending)

/-- Sorted members are got back from any order of them. -/
theorem insertAll_of_perm {arranged : List (String × Value)} (ascending : Ascending members)
    (order : arranged.Perm members) : insertAll [] arranged = members := by
  have distinct : (keys arranged).Nodup := (order.map Prod.fst).nodup_iff.mpr ascending.nodup
  have sorted : Ascending (insertAll [] arranged) := ascending_insertAll [] List.Pairwise.nil
  have sortedMembers : (insertAll [] arranged).Pairwise fun first second => first.1 < second.1 :=
    List.pairwise_map.mp sorted
  refine List.Perm.eq_of_pairwise ?_ sortedMembers (List.pairwise_map.mp ascending)
    ((insertAll_perm [] distinct).trans order)
  intro first second _ _ less greater
  exact absurd greater (String.lt_asymm less)

end ReportCharts.Json.Value
