import Mathlib.Data.List.Induction
import Mathlib.Data.List.Perm.Basic
import ReportCharts.Page.HostValue
import ReportCharts.Proofs.Text.Decimal

/-!
Objects that a script builds by setting keys, and the order in which it sees them again.

A key that is set again keeps its place and gets the new value, so an object has every key once, with the
value set last. Array indexes are seen first, in the order of their numbers, and the other keys behind
them, in the order in which they were first set; where an array index was set is not to be seen.
-/

namespace ReportCharts.Page.HostValue

/-- A key that is the decimal text of a number that an array may have as an index. -/
def IsArrayIndex (key : String) (index : Nat) : Prop := key = toString index ∧ index < 4294967295

theorem arrayIndex?_eq_some_iff {key : String} {index : Nat} :
    arrayIndex? key = some index ↔ IsArrayIndex key index := by
  have limit : UInt32.size - 1 = 4294967295 := rfl
  have spelled : (toString index).toList = Nat.toDigits 10 index := Nat.toList_repr
  simp only [arrayIndex?, limit]
  constructor
  · intro read
    split at read
    · next digits =>
        obtain ⟨nonempty, all, plain⟩ := digits
        split at read
        · next small =>
            obtain rfl := Option.some.inj read
            rw [toDigits_digitsValue nonempty (List.all_eq_true.mp all) plain] at spelled
            exact ⟨(String.toList_inj.mp spelled).symm, small⟩
        · cases read
    · cases read
  · rintro ⟨rfl, small⟩
    have all : (Nat.toDigits 10 index).all Char.isDigit = true :=
      List.all_eq_true.mpr fun _ => isDigit_of_mem_toDigits
    rw [spelled, Binary64.digitsValue_toDigits,
      if_pos ⟨Nat.toDigits_ne_nil, all, plainDigits_toDigits index⟩, if_pos small]

theorem IsArrayIndex.unique {key : String} {index other : Nat} (first : IsArrayIndex key index)
    (second : IsArrayIndex key other) : index = other := by
  have read := arrayIndex?_eq_some_iff.mpr first
  rw [arrayIndex?_eq_some_iff.mpr second] at read
  exact (Option.some.inj read).symm

def IndexBelow (first second : String) : Prop :=
  ∃ index later, IsArrayIndex first index ∧ IsArrayIndex second later ∧ index < later

theorem IndexBelow.asymm {first second : String} (below : IndexBelow first second) :
    ¬IndexBelow second first := by
  rintro ⟨again, before, isSecondToo, isFirstToo, greater⟩
  obtain ⟨index, later, isFirst, isSecond, less⟩ := below
  rw [isFirst.unique isFirstToo, isSecond.unique isSecondToo] at less
  exact Nat.lt_asymm less greater

section

variable {key other : String} {value found : HostValue} {members : List (String × HostValue)}

theorem keys_setKey :
    (setKey key value members).map Prod.fst =
      if key ∈ members.map Prod.fst then members.map Prod.fst
      else members.map Prod.fst ++ [key] := by
  induction members with
  | nil => rfl
  | cons member rest inductionHypothesis =>
      obtain ⟨next, old⟩ := member
      rw [setKey]
      by_cases same : next = key
      · simp [same]
      · have differs : key ≠ next := fun equal => same equal.symm
        rw [if_neg same, List.map_cons, inductionHypothesis]
        by_cases present : key ∈ rest.map Prod.fst
        · simp [present]
        · simp [present, differs]

theorem mem_setKey_iff (distinct : (members.map Prod.fst).Nodup) :
    (other, found) ∈ setKey key value members ↔
      other = key ∧ found = value ∨ other ≠ key ∧ (other, found) ∈ members := by
  induction members with
  | nil => simp [setKey]
  | cons member rest inductionHypothesis =>
      obtain ⟨next, old⟩ := member
      obtain ⟨fresh, distinctRest⟩ := List.nodup_cons.mp distinct
      rw [setKey]
      by_cases same : next = key
      · subst same
        have absent (there : (other, found) ∈ rest) : other ≠ next := by
          rintro rfl
          exact fresh (List.mem_map.mpr ⟨_, there, rfl⟩)
        rw [if_pos rfl]
        grind
      · rw [if_neg same, List.mem_cons, inductionHypothesis distinctRest]
        grind

theorem filter_setKey (test : String → Bool) :
    (setKey key value members).filter (fun member => test member.1) =
      if test key then setKey key value (members.filter fun member => test member.1)
      else members.filter fun member => test member.1 := by
  induction members with
  | nil => by_cases passes : test key <;> simp [setKey, passes]
  | cons member rest inductionHypothesis =>
      obtain ⟨next, old⟩ := member
      rw [setKey]
      by_cases same : next = key
      · subst same
        by_cases passes : test next <;> simp [setKey, passes]
      · rw [if_neg same, List.filter_cons, inductionHypothesis]
        by_cases passes : test key <;> by_cases passesNext : test next <;>
          simp [setKey, passes, passesNext, same]

end

def membersOf (settings : List (String × HostValue)) : List (String × HostValue) :=
  settings.foldl (fun members (key, value) => setKey key value members) []

def lastSet? (settings : List (String × HostValue)) (key : String) : Option HostValue :=
  ((settings.filter fun setting => setting.1 == key).map Prod.snd).getLast?

section

variable (settings : List (String × HostValue))

theorem membersOf_append (setting : String × HostValue) :
    membersOf (settings ++ [setting]) = setKey setting.1 setting.2 (membersOf settings) := by
  rw [membersOf, List.foldl_append]
  rfl

theorem lastSet?_append (setting : String × HostValue) (key : String) :
    lastSet? (settings ++ [setting]) key =
      if setting.1 = key then some setting.2 else lastSet? settings key := by
  by_cases same : setting.1 = key <;> simp [lastSet?, List.filter_append, same]

theorem mem_keys_membersOf {key : String} :
    key ∈ (membersOf settings).map Prod.fst ↔ key ∈ settings.map Prod.fst := by
  induction settings using List.reverseRecOn with
  | nil => rfl
  | append_singleton settings setting inductionHypothesis =>
      rw [membersOf_append, keys_setKey, List.map_append, List.mem_append, ← inductionHypothesis]
      split
      · next present =>
          simp only [List.map_cons, List.map_nil, List.mem_singleton]
          constructor
          · exact .inl
          · rintro (there | rfl)
            · exact there
            · exact present
      · rw [List.mem_append]
        rfl

theorem nodup_keys_membersOf : ((membersOf settings).map Prod.fst).Nodup := by
  induction settings using List.reverseRecOn with
  | nil => exact List.nodup_nil
  | append_singleton settings setting inductionHypothesis =>
      rw [membersOf_append, keys_setKey]
      split
      · exact inductionHypothesis
      · next fresh =>
          refine List.nodup_append.mpr ⟨inductionHypothesis, List.pairwise_singleton _ _, ?_⟩
          intro earlier memEarlier last memLast same
          rw [List.mem_singleton.mp memLast] at same
          exact fresh (same ▸ memEarlier)

/-- A key keeps the place that it got when it was set for the first time. -/
theorem pairwise_idxOf_membersOf :
    ((membersOf settings).map Prod.fst).Pairwise fun first second =>
      (settings.map Prod.fst).idxOf first < (settings.map Prod.fst).idxOf second := by
  induction settings using List.reverseRecOn with
  | nil => exact List.Pairwise.nil
  | append_singleton settings setting inductionHypothesis =>
      have place {key : String} (present : key ∈ settings.map Prod.fst) :
          ((settings ++ [setting]).map Prod.fst).idxOf key = (settings.map Prod.fst).idxOf key := by
        rw [List.map_append, List.idxOf_append_of_mem present]
      have kept : ((membersOf settings).map Prod.fst).Pairwise fun first second =>
          ((settings ++ [setting]).map Prod.fst).idxOf first <
            ((settings ++ [setting]).map Prod.fst).idxOf second := by
        refine inductionHypothesis.imp_of_mem ?_
        intro first second memFirst memSecond less
        rw [mem_keys_membersOf] at memFirst memSecond
        rwa [place memFirst, place memSecond]
      rw [membersOf_append, keys_setKey]
      split
      · exact kept
      · next fresh =>
          rw [mem_keys_membersOf] at fresh
          refine List.pairwise_append.mpr ⟨kept, List.pairwise_singleton _ _, ?_⟩
          intro earlier memEarlier last memLast
          obtain rfl := List.mem_singleton.mp memLast
          rw [mem_keys_membersOf] at memEarlier
          rw [place memEarlier, List.map_append, List.idxOf_append_of_notMem fresh]
          have inside := List.idxOf_lt_length_of_mem memEarlier
          omega

theorem mem_membersOf_iff {key : String} {value : HostValue} :
    (key, value) ∈ membersOf settings ↔ lastSet? settings key = some value := by
  induction settings using List.reverseRecOn with
  | nil => simp [membersOf, lastSet?]
  | append_singleton settings setting inductionHypothesis =>
      rw [membersOf_append, mem_setKey_iff (nodup_keys_membersOf settings), inductionHypothesis,
        lastSet?_append]
      by_cases same : setting.1 = key
      · simp [same, eq_comm]
      · have differs : key ≠ setting.1 := fun equal => same equal.symm
        simp [same, differs]

theorem filter_membersOf (test : String → Bool) :
    (membersOf settings).filter (fun member => test member.1) =
      membersOf (settings.filter fun setting => test setting.1) := by
  induction settings using List.reverseRecOn with
  | nil => rfl
  | append_singleton settings setting inductionHypothesis =>
      rw [membersOf_append, filter_setKey, inductionHypothesis, List.filter_append]
      by_cases passes : test setting.1
      · rw [if_pos passes, List.filter_singleton, passes, cond_true, membersOf_append]
      · simp [passes]

end

theorem indexed_map_snd (members : List (String × HostValue)) :
    (indexed members).map Prod.snd = members.filter fun member => (arrayIndex? member.1).isSome := by
  induction members with
  | nil => rfl
  | cons member rest inductionHypothesis =>
      rw [List.filter_cons, ← inductionHypothesis, indexed, List.filterMap_cons, indexed]
      cases arrayIndex? member.1 <;> rfl

theorem mem_indexed_iff {members : List (String × HostValue)} {index : Nat}
    {member : String × HostValue} :
    (index, member) ∈ indexed members ↔ member ∈ members ∧ arrayIndex? member.1 = some index := by
  simp only [indexed, List.mem_filterMap, Option.map_eq_some_iff, Prod.mk.injEq]
  constructor
  · rintro ⟨entry, there, number, read, rfl, rfl⟩
    exact ⟨there, read⟩
  · rintro ⟨there, read⟩
    exact ⟨member, there, index, read, rfl, rfl⟩

/-- A script sees all members of an object, each once. -/
theorem ordered_perm (members : List (String × HostValue)) : (ordered members).Perm members := by
  have sorted : ((indexed members).mergeSort fun left right => left.1 ≤ right.1).Perm
      (indexed members) := List.mergeSort_perm _ _
  have front := sorted.map Prod.snd
  rw [indexed_map_snd] at front
  refine (front.append_right _).trans ?_
  have split := List.filter_append_perm (fun member => (arrayIndex? member.1).isSome) members
  simpa only [Option.not_isSome] using split

/-- The order of keys: array indexes by their numbers, then the others by when they were first set. -/
inductive Precedes (settings : List (String × HostValue)) : String → String → Prop
  | ascending {first second : String} (below : IndexBelow first second) :
      Precedes settings first second
  | indexFirst {first second : String} {index : Nat} (isFirst : IsArrayIndex first index)
      (isOther : ∀ later, ¬IsArrayIndex second later) : Precedes settings first second
  | setFirst {first second : String} (isOther : ∀ index, ¬IsArrayIndex first index)
      (isOtherToo : ∀ later, ¬IsArrayIndex second later)
      (earlier : (settings.map Prod.fst).idxOf first < (settings.map Prod.fst).idxOf second) :
      Precedes settings first second

/-- The keys that were set, each once and in their order. -/
structure KeysInOrder (settings : List (String × HostValue)) (keys : List String) : Prop where
  ascending : keys.Pairwise (Precedes settings)
  distinct : keys.Nodup
  complete : ∀ key, key ∈ keys ↔ ∃ value, (key, value) ∈ settings

theorem isArrayIndex_iff_isSome {key : String} :
    (arrayIndex? key).isSome = true ↔ ∃ index, IsArrayIndex key index := by
  simp only [Option.isSome_iff_exists, arrayIndex?_eq_some_iff]

theorem forall_not_isArrayIndex_iff {key : String} :
    (arrayIndex? key).isNone = true ↔ ∀ index, ¬IsArrayIndex key index := by
  simp only [← arrayIndex?_eq_some_iff, Option.isNone_iff_eq_none, Option.eq_none_iff_forall_ne_some]

def byIndex (members : List (String × HostValue)) : List (String × HostValue) :=
  ((indexed members).mergeSort fun left right => left.1 ≤ right.1).map Prod.snd

theorem perm_byIndex (members : List (String × HostValue)) :
    (byIndex members).Perm (members.filter fun member => (arrayIndex? member.1).isSome) := by
  rw [← indexed_map_snd]
  exact (List.mergeSort_perm _ _).map Prod.snd

theorem mem_byIndex_membersOf {settings : List (String × HostValue)} {key : String}
    {value : HostValue} :
    (key, value) ∈ byIndex (membersOf settings) ↔
      lastSet? settings key = some value ∧ ∃ index, IsArrayIndex key index := by
  rw [(perm_byIndex _).mem_iff, List.mem_filter, mem_membersOf_iff, isArrayIndex_iff_isSome]

theorem pairwise_byIndex {members : List (String × HostValue)}
    (distinct : (members.map Prod.fst).Nodup) :
    (byIndex members).Pairwise fun first second => IndexBelow first.1 second.1 := by
  have transitive (a b c : Nat × String × HostValue) (first : decide (a.1 ≤ b.1) = true)
      (second : decide (b.1 ≤ c.1) = true) : decide (a.1 ≤ c.1) = true := by
    simp only [decide_eq_true_eq] at first second ⊢
    omega
  have total (a b : Nat × String × HostValue) :
      (decide (a.1 ≤ b.1) || decide (b.1 ≤ a.1)) = true := by
    simp only [Bool.or_eq_true, decide_eq_true_eq]
    omega
  have sorted := List.pairwise_mergeSort transitive total (indexed members)
  have keys : ((byIndex members).map Prod.fst).Nodup :=
    ((perm_byIndex members).map Prod.fst).nodup_iff.mpr
      ((List.filter_sublist.map Prod.fst).nodup distinct)
  have apart := List.pairwise_map.mp (List.pairwise_map.mp keys)
  refine List.pairwise_map.mpr ((sorted.and apart).imp_of_mem ?_)
  rintro ⟨index, first⟩ ⟨later, second⟩ memFirst memSecond ⟨notAfter, differs⟩
  have isFirst := arrayIndex?_eq_some_iff.mp
    (mem_indexed_iff.mp ((List.mergeSort_perm _ _).mem_iff.mp memFirst)).2
  have isSecond := arrayIndex?_eq_some_iff.mp
    (mem_indexed_iff.mp ((List.mergeSort_perm _ _).mem_iff.mp memSecond)).2
  refine ⟨index, later, isFirst, isSecond, Nat.lt_of_le_of_ne (by simpa using notAfter) ?_⟩
  rintro rfl
  exact differs (isFirst.1.trans isSecond.1.symm)

theorem keysInOrder_ordered (settings : List (String × HostValue)) :
    KeysInOrder settings ((ordered (membersOf settings)).map Prod.fst) where
  distinct :=
    ((ordered_perm (membersOf settings)).map Prod.fst).nodup_iff.mpr (nodup_keys_membersOf settings)
  complete key := by
    rw [((ordered_perm (membersOf settings)).map Prod.fst).mem_iff, mem_keys_membersOf]
    simp
  ascending := by
    have isIndex {member : String × HostValue} (there : member ∈ byIndex (membersOf settings)) :
        ∃ index, IsArrayIndex member.1 index := by
      have passed := List.mem_filter.mp ((perm_byIndex _).mem_iff.mp there)
      exact isArrayIndex_iff_isSome.mp passed.2
    have isOther {member : String × HostValue}
        (there : member ∈ (membersOf settings).filter fun entry => (arrayIndex? entry.1).isNone) :
        ∀ index, ¬IsArrayIndex member.1 index :=
      forall_not_isArrayIndex_iff.mp (List.mem_filter.mp there).2
    rw [List.pairwise_map]
    refine List.pairwise_append.mpr ⟨?_, ?_, ?_⟩
    · refine (pairwise_byIndex (nodup_keys_membersOf settings)).imp ?_
      intro first second below
      exact .ascending below
    · have places := List.pairwise_map.mp (pairwise_idxOf_membersOf settings)
      refine (places.sublist List.filter_sublist).imp_of_mem ?_
      intro first second memFirst memSecond earlier
      exact .setFirst (isOther memFirst) (isOther memSecond) earlier
    · intro first memFirst second memSecond
      obtain ⟨index, isFirst⟩ := isIndex memFirst
      exact .indexFirst isFirst (isOther memSecond)

/--
Two sequences that differ in nothing but where the settings of array indexes stand: those of each array
index come in the same order, and so do those of all other keys.
-/
structure Shuffled (settings others : List (String × HostValue)) : Prop where
  indexes : ∀ key index, IsArrayIndex key index →
    (settings.filter fun setting => setting.1 == key) = others.filter fun setting => setting.1 == key
  others : (settings.filter fun setting => (arrayIndex? setting.1).isNone) =
    others.filter fun setting => (arrayIndex? setting.1).isNone

/-- Settings of array indexes may be put into any order if none of them is set again. -/
theorem Shuffled.of_perm {settings others : List (String × HostValue)} (order : settings.Perm others)
    (once : ((settings.filter fun setting => (arrayIndex? setting.1).isSome).map Prod.fst).Nodup)
    (behind : (settings.filter fun setting => (arrayIndex? setting.1).isNone) =
      others.filter fun setting => (arrayIndex? setting.1).isNone) :
    Shuffled settings others where
  others := behind
  indexes key index isIndex := by
    have asked : (arrayIndex? key).isSome = true := isArrayIndex_iff_isSome.mpr ⟨index, isIndex⟩
    have apart {settings : List (String × HostValue)}
        (once : ((settings.filter fun setting => (arrayIndex? setting.1).isSome).map Prod.fst).Nodup) :
        (settings.filter fun setting => setting.1 == key).Pairwise
          fun setting other => setting.1 ≠ other.1 := by
      refine (List.pairwise_map.mp once).sublist ?_
      apply List.monotone_filter_right settings
      intro setting here
      rw [eq_of_beq here]
      exact asked
    have onceToo := ((order.filter _).map Prod.fst).nodup_iff.mp once
    refine (order.filter _).eq_of_pairwise ?_ (apart once) (apart onceToo)
    intro setting other member memberToo differ
    have isKey := eq_of_beq (List.mem_filter.mp member).2
    have isKeyToo := eq_of_beq (List.mem_filter.mp memberToo).2
    exact absurd (isKey.trans isKeyToo.symm) differ

/-- What a script sees of an object does not tell where array indexes were set. -/
theorem Shuffled.ordered_eq {settings others : List (String × HostValue)}
    (shuffled : Shuffled settings others) :
    ordered (membersOf settings) = ordered (membersOf others) := by
  have behind : ((membersOf settings).filter fun member => (arrayIndex? member.1).isNone) =
      (membersOf others).filter fun member => (arrayIndex? member.1).isNone := by
    rw [filter_membersOf settings fun key => (arrayIndex? key).isNone, shuffled.others,
      ← filter_membersOf others fun key => (arrayIndex? key).isNone]
  have front : byIndex (membersOf settings) = byIndex (membersOf others) := by
    have ascending := pairwise_byIndex (nodup_keys_membersOf settings)
    have ascendingOthers := pairwise_byIndex (nodup_keys_membersOf others)
    have nodup {members : List (String × HostValue)}
        (ascending : members.Pairwise fun first second => IndexBelow first.1 second.1) :
        members.Nodup := by
      refine ascending.imp ?_
      rintro member _ below rfl
      exact below.asymm below
    have same : (byIndex (membersOf settings)).Perm (byIndex (membersOf others)) := by
      refine (List.perm_ext_iff_of_nodup (nodup ascending) (nodup ascendingOthers)).mpr ?_
      rintro ⟨key, value⟩
      rw [mem_byIndex_membersOf, mem_byIndex_membersOf, and_congr_left_iff]
      rintro ⟨index, isIndex⟩
      rw [lastSet?, lastSet?, shuffled.indexes key index isIndex]
    refine List.Perm.eq_of_pairwise ?_ ascending ascendingOthers same
    intro first second _ _ below above
    exact absurd above below.asymm
  exact congrArg₂ (· ++ ·) front behind

end ReportCharts.Page.HostValue
