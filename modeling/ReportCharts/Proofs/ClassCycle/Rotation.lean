import Mathlib.Data.Nat.ModEq
import Mathlib.Logic.Function.Iterate
import Mathlib.Order.Lattice.Nat
import ReportCharts.ClassCycle

/-!
Class cycles over many steps.

A step moves the first class of the sequence that is present up by one position, where it may meet the
next one. So all that are present have met at the last position before as many steps as the sequence has
classes, and from then on a single class goes round. Classes outside the sequence stay as they are.
-/

namespace ReportCharts.ClassToggle

def Carries (sequence classes : List String) (position : Nat) : Prop :=
  ∃ token, sequence[position]? = some token ∧ token ∈ classes

/-- The class at a position is present and no other class of the sequence is. -/
def Alone (sequence classes : List String) (position : Nat) : Prop :=
  ∃ token, sequence[position]? = some token ∧
    ∀ other ∈ sequence, other ∈ classes ↔ other = token

def after (sequence classes : List String) (count : Nat) : List String :=
  (step sequence)^[count] classes

def others (sequence classes : List String) : List String :=
  classes.filter fun token => token ∉ sequence

/-- The number of steps after which a single class is present, whichever were at first. -/
def settling (sequence : List String) : Nat := max 1 (sequence.length - 1)

variable {sequence classes : List String}

theorem Carries.lt_length {position : Nat} (carries : Carries sequence classes position) :
    position < sequence.length := by
  obtain ⟨token, here, -⟩ := carries
  exact (List.getElem?_eq_some_iff.mp here).1

theorem exists_lowest (present : ∃ position, Carries sequence classes position) :
    ∃ low, Carries sequence classes low ∧
      ∀ position, Carries sequence classes position → low ≤ position :=
  ⟨sInf { position | Carries sequence classes position }, Nat.sInf_mem present,
    fun _ carries => Nat.sInf_le carries⟩

theorem after_succ (sequence classes : List String) (count : Nat) :
    after sequence classes (count + 1) = step sequence (after sequence classes count) :=
  Function.iterate_succ_apply' (step sequence) count classes

theorem after_add (sequence classes : List String) (count further : Nat) :
    after sequence classes (count + further) =
      after sequence (after sequence classes count) further := by
  unfold after
  rw [Nat.add_comm, Function.iterate_add_apply]

theorem presentIn?_of_first {has : String → Bool} {start position : Nat} {token : String}
    (here : sequence[position]? = some token) (present : has token = true)
    (first : ∀ earlier < position, ∀ other, sequence[earlier]? = some other → has other = false) :
    presentIn? has start sequence = some (start + position, token) := by
  induction sequence generalizing start position with
  | nil => simp at here
  | cons head rest inductionHypothesis =>
      cases position with
      | zero =>
          obtain rfl : head = token := by simpa using here
          simp [presentIn?, present]
      | succ position =>
          have absent : has head = false := first 0 (Nat.succ_pos position) head rfl
          have later : ∀ earlier < position, ∀ other, rest[earlier]? = some other →
              has other = false := by
            intro earlier before other found
            exact first (earlier + 1) (Nat.succ_lt_succ before) other found
          have found : presentIn? has (start + 1) rest = some (start + 1 + position, token) :=
            inductionHypothesis here later
          simp only [presentIn?, absent, Bool.false_eq_true, if_false, found]
          rw [Nat.add_assoc, Nat.add_comm 1]

theorem next?_of_first {position : Nat} {token successor : String}
    (here : sequence[position]? = some token) (present : token ∈ classes)
    (first : ∀ earlier < position, ¬Carries sequence classes earlier)
    (follows : sequence[(position + 1) % sequence.length]? = some successor) :
    next? classes.contains sequence = some ⟨some token, successor⟩ := by
  have found : presentIn? classes.contains 0 sequence = some (position, token) := by
    rw [presentIn?_of_first here (List.contains_iff_mem.mpr present), Nat.zero_add]
    intro earlier before other found
    rw [Bool.eq_false_iff]
    intro contained
    exact first earlier before ⟨other, found, List.contains_iff_mem.mp contained⟩
  cases sequence with
  | nil => simp at here
  | cons head rest =>
      simp only [next?, found, List.getD_eq_getElem?_getD, follows, Option.getD_some]

theorem next?_of_none {token : String} (here : sequence[0]? = some token)
    (absent : ∀ position, ¬Carries sequence classes position) :
    next? classes.contains sequence = some ⟨none, token⟩ := by
  have found : presentIn? classes.contains 0 sequence = none := by
    rw [presentIn?_eq_none_iff]
    intro other member
    obtain ⟨position, inside, same⟩ := List.mem_iff_getElem.mp member
    rw [Bool.eq_false_iff]
    intro contained
    refine absent position ⟨other, ?_, List.contains_iff_mem.mp contained⟩
    rw [List.getElem?_eq_getElem inside, same]
  cases sequence with
  | nil => simp at here
  | cons head rest =>
      obtain rfl : head = token := by simpa using here
      simp only [next?, found]

section

variable (distinct : sequence.Nodup)

include distinct

theorem eq_of_getElem?_eq_some {position other : Nat} {token : String}
    (here : sequence[position]? = some token) (there : sequence[other]? = some token) :
    other = position := by
  have inside := (List.getElem?_eq_some_iff.mp there).1
  exact (List.getElem?_inj inside distinct).mp (there.trans here.symm)

theorem carries_add {position other : Nat} {token : String}
    (here : sequence[position]? = some token) :
    Carries sequence (ClassList.add token classes) other ↔
      Carries sequence classes other ∨ other = position := by
  constructor
  · rintro ⟨found, there, present⟩
    rcases ClassList.mem_add.mp present with present | rfl
    · exact .inl ⟨found, there, present⟩
    · exact .inr (eq_of_getElem?_eq_some distinct here there)
  · rintro (⟨found, there, present⟩ | rfl)
    · exact ⟨found, there, ClassList.mem_add.mpr (.inl present)⟩
    · exact ⟨token, here, ClassList.mem_add.mpr (.inr rfl)⟩

theorem carries_remove {position other : Nat} {token : String}
    (here : sequence[position]? = some token) :
    Carries sequence (ClassList.remove token classes) other ↔
      Carries sequence classes other ∧ other ≠ position := by
  constructor
  · rintro ⟨found, there, present⟩
    obtain ⟨present, differs⟩ := ClassList.mem_remove.mp present
    refine ⟨⟨found, there, present⟩, ?_⟩
    rintro rfl
    rw [here] at there
    exact differs (Option.some.inj there).symm
  · rintro ⟨⟨found, there, present⟩, differs⟩
    refine ⟨found, there, ClassList.mem_remove.mpr ⟨present, ?_⟩⟩
    rintro rfl
    exact differs (eq_of_getElem?_eq_some distinct here there)

theorem alone_iff {position : Nat} :
    Alone sequence classes position ↔
      Carries sequence classes position ∧
        ∀ other, Carries sequence classes other → other = position := by
  constructor
  · rintro ⟨token, here, only⟩
    have member := List.mem_of_getElem? here
    refine ⟨⟨token, here, (only token member).mpr rfl⟩, ?_⟩
    rintro other ⟨found, there, present⟩
    obtain rfl := (only found (List.mem_of_getElem? there)).mp present
    exact eq_of_getElem?_eq_some distinct here there
  · rintro ⟨⟨token, here, present⟩, only⟩
    refine ⟨token, here, ?_⟩
    intro other member
    constructor
    · intro otherPresent
      obtain ⟨place, there⟩ := List.mem_iff_getElem?.mp member
      obtain rfl := only place ⟨other, there, otherPresent⟩
      exact Option.some.inj (there.symm.trans here)
    · rintro rfl
      exact present

theorem Alone.first {position : Nat} (alone : Alone sequence classes position) :
    ∀ earlier < position, ¬Carries sequence classes earlier := by
  intro earlier before carries
  have same := ((alone_iff distinct).mp alone).2 earlier carries
  exact absurd same (Nat.ne_of_lt before)

/-- The first class that is present gives way to the one after it. -/
theorem carries_step {position : Nat} (carries : Carries sequence classes position)
    (first : ∀ earlier < position, ¬Carries sequence classes earlier) (other : Nat) :
    Carries sequence (step sequence classes) other ↔
      Carries sequence classes other ∧ other ≠ position ∨
        other = (position + 1) % sequence.length := by
  have inside := carries.lt_length
  obtain ⟨token, here, present⟩ := carries
  have follows := List.getElem?_eq_getElem (Nat.mod_lt (position + 1) (Nat.zero_lt_of_lt inside))
  have stepped := next?_of_first here present first follows
  simp only [step, stepped, apply, Option.elim_some]
  rw [carries_add distinct follows, carries_remove distinct here]

theorem alone_step_of_none (given : sequence ≠ [])
    (absent : ∀ position, ¬Carries sequence classes position) :
    Alone sequence (step sequence classes) 0 := by
  have here := List.getElem?_eq_getElem (List.length_pos_iff.mpr given)
  have stepped := next?_of_none here absent
  rw [alone_iff distinct]
  simp only [step, stepped, apply, Option.elim_none, carries_add distinct here]
  refine ⟨.inr trivial, ?_⟩
  rintro other (carries | same)
  · exact absurd carries (absent other)
  · exact same

theorem alone_step {position : Nat} (alone : Alone sequence classes position) :
    Alone sequence (step sequence classes) ((position + 1) % sequence.length) := by
  obtain ⟨carries, only⟩ := (alone_iff distinct).mp alone
  rw [alone_iff distinct]
  simp only [carries_step distinct carries (alone.first distinct)]
  refine ⟨.inr trivial, ?_⟩
  rintro other (⟨otherCarries, differs⟩ | same)
  · exact absurd (only other otherCarries) differs
  · exact same

theorem alone_after {position : Nat} (alone : Alone sequence classes position) (count : Nat) :
    Alone sequence (after sequence classes count) ((position + count) % sequence.length) := by
  induction count with
  | zero =>
      have inside := ((alone_iff distinct).mp alone).1.lt_length
      rw [Nat.add_zero, Nat.mod_eq_of_lt inside]
      exact alone
  | succ count inductionHypothesis =>
      have next := alone_step distinct inductionHypothesis
      rw [Nat.mod_add_mod, Nat.add_assoc] at next
      rw [after_succ]
      exact next

/--
The first class that is present reaches the last position and has met all others by then. The induction
is on the way that it still has to go.
-/
theorem alone_last {low : Nat} (lowest : Carries sequence classes low)
    (above : ∀ position, Carries sequence classes position → low ≤ position) :
    Alone sequence (after sequence classes (sequence.length - 1 - low)) (sequence.length - 1) := by
  generalize way : sequence.length - 1 - low = count
  induction count generalizing classes low with
  | zero =>
      have inside := lowest.lt_length
      obtain rfl : low = sequence.length - 1 := by omega
      refine (alone_iff distinct).mpr ⟨lowest, ?_⟩
      intro other carries
      have lower := above other carries
      have upper := carries.lt_length
      omega
  | succ count inductionHypothesis =>
      have first : ∀ earlier < low, ¬Carries sequence classes earlier := by
        intro earlier before carries
        exact absurd (above earlier carries) (Nat.not_le_of_lt before)
      have moves := carries_step distinct lowest first
      have next : (low + 1) % sequence.length = low + 1 := Nat.mod_eq_of_lt (by omega)
      rw [next] at moves
      have lowestNext : Carries sequence (step sequence classes) (low + 1) :=
        (moves (low + 1)).mpr (.inr rfl)
      have aboveNext : ∀ position, Carries sequence (step sequence classes) position →
          low + 1 ≤ position := by
        intro position carries
        rcases (moves position).mp carries with ⟨carries, differs⟩ | rfl
        · have lower := above position carries
          omega
        · exact Nat.le_refl _
      exact inductionHypothesis lowestNext aboveNext (by omega)

/-- However many classes are present at first, soon one goes round alone. -/
theorem exists_alone_after (given : sequence ≠ []) (classes : List String) :
    ∃ start < sequence.length, ∀ count,
      Alone sequence (after sequence classes (settling sequence + count))
        ((start + count) % sequence.length) := by
  have settled : ∃ reached ≤ settling sequence, ∃ position,
      Alone sequence (after sequence classes reached) position := by
    by_cases present : ∃ position, Carries sequence classes position
    · obtain ⟨low, lowest, above⟩ := exists_lowest present
      have soon : sequence.length - 1 - low ≤ settling sequence :=
        (Nat.sub_le _ _).trans (Nat.le_max_right _ _)
      exact ⟨_, soon, _, alone_last distinct lowest above⟩
    · have absent := not_exists.mp present
      exact ⟨1, Nat.le_max_left _ _, 0, alone_step_of_none distinct given absent⟩
  obtain ⟨reached, soon, position, alone⟩ := settled
  obtain ⟨wait, same⟩ := Nat.exists_eq_add_of_le soon
  refine ⟨(position + wait) % sequence.length, Nat.mod_lt _ (List.length_pos_iff.mpr given), ?_⟩
  intro count
  have later := alone_after distinct alone (wait + count)
  rw [← after_add, ← Nat.add_assoc, ← same, ← Nat.add_assoc, ← Nat.mod_add_mod] at later
  exact later

theorem alone_unique {position other : Nat} (alone : Alone sequence classes position)
    (otherAlone : Alone sequence classes other) : other = position :=
  ((alone_iff distinct).mp alone).2 other ((alone_iff distinct).mp otherAlone).1

theorem step_of_alone {position : Nat} (alone : Alone sequence classes position) :
    ∃ token successor, sequence[position]? = some token ∧
      sequence[(position + 1) % sequence.length]? = some successor ∧
      step sequence classes = ClassList.add successor (ClassList.remove token classes) := by
  have carries := ((alone_iff distinct).mp alone).1
  have inside := carries.lt_length
  obtain ⟨token, here, present⟩ := carries
  have follows := List.getElem?_eq_getElem (Nat.mod_lt (position + 1) (Nat.zero_lt_of_lt inside))
  have stepped := next?_of_first here present (alone.first distinct) follows
  refine ⟨token, _, here, follows, ?_⟩
  simp only [step, stepped, apply, Option.elim_some]

theorem existsUnique_alone_after {position : Nat} (alone : Alone sequence classes position)
    {visited : Nat} (inside : visited < sequence.length) :
    ∃! further, further < sequence.length ∧
      Alone sequence (after sequence classes further) visited := by
  have round := alone_after distinct alone
  have start := ((alone_iff distinct).mp alone).1.lt_length
  obtain ⟨further, short, reaches⟩ :
      ∃ further < sequence.length, (position + further) % sequence.length = visited := by
    by_cases ahead : position ≤ visited
    · refine ⟨visited - position, by omega, ?_⟩
      rw [Nat.add_sub_cancel' ahead, Nat.mod_eq_of_lt inside]
    · refine ⟨visited + sequence.length - position, by omega, ?_⟩
      rw [Nat.add_sub_cancel' (by omega), Nat.add_mod_right, Nat.mod_eq_of_lt inside]
  refine ⟨further, ⟨short, reaches ▸ round further⟩, ?_⟩
  rintro other ⟨otherShort, otherAlone⟩
  have same : (position + other) % sequence.length = (position + further) % sequence.length :=
    reaches ▸ alone_unique distinct otherAlone (round other)
  have congruent : other ≡ further [MOD sequence.length] := Nat.ModEq.add_left_cancel' position same
  exact congruent.eq_of_lt_of_lt otherShort short

end

theorem others_add {token : String} (member : token ∈ sequence) :
    others sequence (ClassList.add token classes) = others sequence classes := by
  unfold ClassList.add
  split
  · rfl
  · simp [others, List.filter_append, member]

theorem others_remove {token : String} (member : token ∈ sequence) :
    others sequence (ClassList.remove token classes) = others sequence classes := by
  unfold others ClassList.remove
  rw [List.filter_filter]
  apply List.filter_congr
  intro other _
  by_cases same : other = token
  · simp [same, member]
  · simp [same]

theorem mem_of_presentIn? {has : String → Bool} {start position : Nat} {token : String}
    (found : presentIn? has start sequence = some (position, token)) : token ∈ sequence := by
  induction sequence generalizing start with
  | nil => cases found
  | cons head rest inductionHypothesis =>
      by_cases present : has head = true
      · simp only [presentIn?, present, if_true, Option.some.injEq, Prod.mk.injEq] at found
        exact found.2 ▸ List.mem_cons_self
      · simp only [presentIn?, present, Bool.false_eq_true, if_false] at found
        exact List.mem_cons_of_mem head (inductionHypothesis found)

/-- A step takes classes from the sequence alone, both the one that goes and the one that comes. -/
theorem mem_of_next? {has : String → Bool} {toggle : ClassToggle}
    (stepped : next? has sequence = some toggle) :
    toggle.into ∈ sequence ∧ ∀ token ∈ toggle.out, token ∈ sequence := by
  cases sequence with
  | nil => cases stepped
  | cons head rest =>
      cases found : presentIn? has 0 (head :: rest) with
      | none =>
          simp only [next?, found, Option.some.injEq] at stepped
          subst stepped
          simp
      | some first =>
          obtain ⟨position, token⟩ := first
          simp only [next?, found, Option.some.injEq] at stepped
          subst stepped
          have inside := Nat.mod_lt (position + 1) (Nat.succ_pos rest.length)
          constructor
          · change (head :: rest).getD _ head ∈ head :: rest
            rw [List.getD_eq_getElem?_getD, List.getElem?_eq_getElem inside, Option.getD_some]
            exact List.getElem_mem inside
          · rintro other ⟨⟩
            exact mem_of_presentIn? found

theorem others_step (sequence classes : List String) :
    others sequence (step sequence classes) = others sequence classes := by
  unfold step
  cases stepped : next? classes.contains sequence with
  | none => rfl
  | some toggle =>
      obtain ⟨out, into⟩ := toggle
      obtain ⟨into, outs⟩ := mem_of_next? stepped
      simp only [apply, others_add into]
      cases out with
      | none => rfl
      | some token => exact others_remove (outs token rfl)

theorem others_after (sequence classes : List String) (count : Nat) :
    others sequence (after sequence classes count) = others sequence classes := by
  induction count with
  | zero => rfl
  | succ count inductionHypothesis => rw [after_succ, others_step, inductionHypothesis]

/-- What becomes of a class list that is stepped through a sequence again and again. -/
structure Cycles (sequence classes : List String) : Prop where
  settles : ∀ count ≥ settling sequence, ∃ position,
    Alone sequence (after sequence classes count) position
  replaces : ∀ count ≥ settling sequence, ∀ position,
    Alone sequence (after sequence classes count) position →
      ∃ token successor, sequence[position]? = some token ∧
        sequence[(position + 1) % sequence.length]? = some successor ∧
        after sequence classes (count + 1) =
          ClassList.add successor (ClassList.remove token (after sequence classes count)) ∧
        Alone sequence (after sequence classes (count + 1)) ((position + 1) % sequence.length)
  visits : ∀ count ≥ settling sequence, ∀ position < sequence.length,
    ∃! further, further < sequence.length ∧
      Alone sequence (after sequence classes (count + further)) position
  returns : ∀ count ≥ settling sequence, ∀ position,
    Alone sequence (after sequence classes count) position →
      Alone sequence (after sequence classes (count + sequence.length)) position
  keeps : ∀ count, others sequence (after sequence classes count) = others sequence classes

/--
Stepping any class list through distinct classes: soon exactly one of them is present, which gives way
to the next one at every step, so that each has its turn once in a round; all other classes stay.
-/
theorem cycles_of_nodup (given : sequence ≠ []) (distinct : sequence.Nodup)
    (classes : List String) : Cycles sequence classes := by
  obtain ⟨start, -, round⟩ := exists_alone_after distinct given classes
  have settles : ∀ count ≥ settling sequence, ∃ position,
      Alone sequence (after sequence classes count) position := by
    intro count late
    obtain ⟨further, rfl⟩ := Nat.exists_eq_add_of_le late
    exact ⟨_, round further⟩
  refine ⟨settles, ?_, ?_, ?_, others_after sequence classes⟩
  · intro count _ position alone
    obtain ⟨token, successor, here, follows, stepped⟩ := step_of_alone distinct alone
    refine ⟨token, successor, here, follows, ?_, ?_⟩
    · rw [after_succ]
      exact stepped
    · rw [after_succ]
      exact alone_step distinct alone
  · intro count late visited inside
    obtain ⟨position, alone⟩ := settles count late
    simp only [after_add]
    exact existsUnique_alone_after distinct alone inside
  · intro count _ position alone
    have inside := ((alone_iff distinct).mp alone).1.lt_length
    have later := alone_after distinct alone sequence.length
    rw [Nat.add_mod_right, Nat.mod_eq_of_lt inside] at later
    rw [after_add]
    exact later

theorem cycles_traffic_light :
    let sequence := ["red", "amber", "green"]
    let classes := ["btn", "green", "red", "wide"]
    sequence ≠ [] ∧ sequence.Nodup ∧ Cycles sequence classes ∧
      after sequence classes (settling sequence) = ["btn", "green", "wide"] := by
  intro sequence classes
  have given : sequence ≠ [] := List.cons_ne_nil _ _
  have distinct : sequence.Nodup := by decide
  exact ⟨given, distinct, cycles_of_nodup given distinct classes, by decide⟩

end ReportCharts.ClassToggle
