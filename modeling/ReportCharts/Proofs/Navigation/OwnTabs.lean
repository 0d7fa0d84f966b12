import ReportCharts.Proofs.Navigation.LeadingPath

/-!
The tabs of a page, segment by segment.

An address begins with a leading path when it has the same segments up to the last, and in the place of
the last one a segment that begins with it. Where that segment is the same, the address stands at the
leading path or below it. Where it goes on, it is the name of something else that only begins alike, and
its tab is found all the same.
-/

namespace ReportCharts.Navigation

section

variable {separator : Char} {text leading name word : List Char} {front rest : List (List Char)}

theorem segments_separator (separator : Char) (text : List Char) :
    segments separator (separator :: text) = [] :: segments separator text := by
  rw [segments, if_pos rfl]

theorem segments_cons_of_ne {c : Char} (other : c ≠ separator)
    (parts : segments separator text = word :: rest) :
    segments separator (c :: text) = (c :: word) :: rest := by
  rw [segments, if_neg other, parts]

theorem joined_segments (separator : Char) (text : List Char) :
    joined separator (segments separator text) = text := by
  induction text with
  | nil => rfl
  | cons c text inductionHypothesis =>
      by_cases here : c = separator
      · subst here
        rw [segments_separator, joined_cons_of_ne_nil [] (segments_ne_nil c text), inductionHypothesis,
          List.nil_append]
      · obtain ⟨word, rest, parts⟩ := List.exists_cons_of_ne_nil (segments_ne_nil separator text)
        rw [segments_cons_of_ne here parts, joined_cons_cons, ← parts, inductionHypothesis]

theorem segments_append {more : List Char} (parts : segments separator leading = front ++ [name])
    (others : segments separator more = word :: rest) :
    segments separator (leading ++ more) = front ++ (name ++ word) :: rest := by
  -- over the characters of the leading text, since its last segment may also be its first
  induction leading generalizing front name with
  | nil =>
      obtain ⟨rfl, rfl⟩ : front = [] ∧ name = [] := by
        rcases front with _ | ⟨first, front⟩ <;> simp_all [segments]
      exact others
  | cons c leading inductionHypothesis =>
      by_cases here : c = separator
      · subst here
        rw [segments_separator] at parts
        rcases front with _ | ⟨first, front⟩
        · cases segments_ne_nil c leading (List.cons.inj parts).2
        · obtain ⟨rfl, later⟩ := List.cons.inj parts
          rw [List.cons_append, segments_separator, inductionHypothesis later]
          rfl
      · obtain ⟨first, later, split⟩ :=
          List.exists_cons_of_ne_nil (segments_ne_nil separator leading)
        rw [segments_cons_of_ne here split] at parts
        rcases front with _ | ⟨start, front⟩
        · obtain ⟨rfl, rfl⟩ := List.cons.inj parts
          have whole : segments separator leading = [] ++ [first] := split
          exact segments_cons_of_ne here (inductionHypothesis whole)
        · obtain ⟨rfl, rfl⟩ := List.cons.inj parts
          have whole : segments separator leading = (first :: front) ++ [name] := split
          exact segments_cons_of_ne here (inductionHypothesis whole)

theorem joined_append_cons (separator : Char) (front : List (List Char)) (name word : List Char)
    (rest : List (List Char)) :
    joined separator (front ++ (name ++ word) :: rest) =
      joined separator (front ++ [name]) ++ joined separator (word :: rest) := by
  induction front with
  | nil =>
      cases rest with
      | nil => rfl
      | cons second rest => exact List.append_assoc ..
  | cons first front inductionHypothesis =>
      have more : ∀ others : List (List Char), ∀ last, front ++ last :: others ≠ [] := by simp
      rw [List.cons_append, List.cons_append, joined_cons_of_ne_nil first (more _ _),
        joined_cons_of_ne_nil first (more _ _), inductionHypothesis, List.append_assoc, List.cons_append]

/-- A text begins with another when its segments do, up to the last, which may go on. -/
theorem isPrefix_iff_segments (parts : segments separator leading = front ++ [name]) :
    leading <+: text ↔ ∃ word rest, segments separator text = front ++ (name ++ word) :: rest := by
  constructor
  · rintro ⟨more, rfl⟩
    obtain ⟨word, rest, others⟩ := List.exists_cons_of_ne_nil (segments_ne_nil separator more)
    exact ⟨word, rest, segments_append parts others⟩
  · rintro ⟨word, rest, whole⟩
    refine ⟨joined separator (word :: rest), ?_⟩
    rw [← joined_segments separator text, whole, joined_append_cons, ← parts, joined_segments]

end

def Under (leading address : List Char) : Prop := address = leading ∨ leading ++ ['/'] <+: address

/-- An address has, in the place of a path's last segment, one that only begins like it. -/
def Namesake (leading address : List Char) : Prop :=
  ∃ front name more rest, segments '/' leading = front ++ [name] ∧ more ≠ [] ∧
    segments '/' address = front ++ (name ++ more) :: rest

section

variable {leading address name : List Char} {front : List (List Char)}

theorem exists_last_segment (text : List Char) :
    ∃ front name, segments '/' text = front ++ [name] := by
  obtain ⟨front, name, parts⟩ := List.eq_nil_or_concat _ |>.resolve_left (segments_ne_nil '/' text)
  exact ⟨front, name, by simpa using parts⟩

theorem under_iff_segments (parts : segments '/' leading = front ++ [name]) :
    Under leading address ↔ ∃ rest, segments '/' address = front ++ name :: rest := by
  constructor
  · rintro (rfl | ⟨more, rfl⟩)
    · exact ⟨[], parts⟩
    · have whole := segments_append parts (segments_separator '/' more)
      rw [List.append_nil] at whole
      exact ⟨segments '/' more, by simpa using whole⟩
  · rintro ⟨rest, whole⟩
    have same : address = leading ++ joined '/' ([] :: rest) := by
      have split := joined_append_cons '/' front name [] rest
      rw [List.append_nil, ← whole, ← parts, joined_segments, joined_segments] at split
      exact split
    cases rest with
    | nil =>
        left
        simpa [joined] using same
    | cons second rest =>
        right
        exact ⟨joined '/' (second :: rest), by simpa [joined] using same.symm⟩

theorem namesake_iff_segments (parts : segments '/' leading = front ++ [name]) :
    Namesake leading address ↔
      ∃ more rest, more ≠ [] ∧ segments '/' address = front ++ (name ++ more) :: rest := by
  constructor
  · rintro ⟨otherFront, otherName, more, rest, split, goesOn, whole⟩
    obtain ⟨rfl, rfl⟩ : otherFront = front ∧ otherName = name := by
      simpa using List.append_inj' (split.symm.trans parts) rfl
    exact ⟨more, rest, goesOn, whole⟩
  · rintro ⟨more, rest, goesOn, whole⟩
    exact ⟨front, name, more, rest, parts, goesOn, whole⟩

theorem isPrefix_iff (leading address : List Char) :
    leading <+: address ↔ Under leading address ∨ Namesake leading address := by
  obtain ⟨front, name, parts⟩ := exists_last_segment leading
  rw [isPrefix_iff_segments parts, under_iff_segments parts, namesake_iff_segments parts]
  constructor
  · rintro ⟨word, rest, whole⟩
    by_cases same : word = []
    · subst same
      exact .inl ⟨rest, by simpa using whole⟩
    · exact .inr ⟨word, rest, same, whole⟩
  · rintro (⟨rest, whole⟩ | ⟨more, rest, -, whole⟩)
    · exact ⟨[], rest, by simpa using whole⟩
    · exact ⟨more, rest, whole⟩

theorem not_namesake_of_under (under : Under leading address) : ¬Namesake leading address := by
  obtain ⟨front, name, parts⟩ := exists_last_segment leading
  obtain ⟨rest, whole⟩ := (under_iff_segments parts).mp under
  rw [namesake_iff_segments parts]
  rintro ⟨more, others, goesOn, other⟩
  obtain ⟨same, -⟩ : name = name ++ more ∧ rest = others := by
    simpa using whole.symm.trans other
  exact goesOn (by simpa using same)

end

/-- Every tab of a path stands at its leading path or below it. -/
def OwnTabs (navigation : Navigation) (path : String) (addresses : List String) : Prop :=
  ∀ position ∈ navigation.matchingTabs path addresses, ∀ leading address,
    navigation.leadingPath? path = some leading → addresses[position]? = some address →
      Under leading address.toList

/-- The tabs of a path are those of its own section and their namesakes. -/
structure TabsByName (navigation : Navigation) (path : String) (addresses : List String) : Prop where
  found : ∀ position, position ∈ navigation.matchingTabs path addresses ↔
    ∃ leading address, navigation.leadingPath? path = some leading ∧ leading ≠ [] ∧
      addresses[position]? = some address ∧
      (Under leading address.toList ∨ Namesake leading address.toList)
  apart : ∀ leading address, ¬(Under leading address ∧ Namesake leading address)
  own : navigation.OwnTabs path addresses ↔
    ∀ leading, navigation.leadingPath? path = some leading → leading ≠ [] →
      ∀ address ∈ addresses, ¬Namesake leading address.toList

variable (navigation : Navigation) (path : String) (addresses : List String)

theorem mem_matchingTabs_iff_under {position : Nat} :
    position ∈ navigation.matchingTabs path addresses ↔
      ∃ leading address, navigation.leadingPath? path = some leading ∧ leading ≠ [] ∧
        addresses[position]? = some address ∧
        (Under leading address.toList ∨ Namesake leading address.toList) := by
  cases leads : navigation.leadingPath? path with
  | none => simp [matchingTabs, leads]
  | some leading =>
      have empty := (leads_of_leadingPath? leads).empty
      rw [mem_matchingTabs_iff leads]
      simp only [isPrefix_iff, Option.some.injEq, exists_and_left, exists_eq_left', Ne, empty]

/--
On any page the tabs found are those at its leading path or below it, and those whose names only begin
like the last segment of it; so a page lights up the tabs of its own section alone exactly if no tab
bears such a name.
-/
theorem tabsByName : navigation.TabsByName path addresses where
  found _ := navigation.mem_matchingTabs_iff_under path addresses
  apart _ _ := fun ⟨under, namesake⟩ => not_namesake_of_under under namesake
  own := by
    constructor
    · intro own leading leads nonempty address member namesake
      obtain ⟨position, here⟩ := List.mem_iff_getElem?.mp member
      have found := (navigation.mem_matchingTabs_iff_under path addresses).mpr
        ⟨leading, address, leads, nonempty, here, .inr namesake⟩
      exact not_namesake_of_under (own position found leading address leads here) namesake
    · intro apart position found leading address leads here
      obtain ⟨other, tab, leadsToo, nonempty, there, either⟩ :=
        (navigation.mem_matchingTabs_iff_under path addresses).mp found
      obtain rfl := Option.some.inj (leads.symm.trans leadsToo)
      obtain rfl := Option.some.inj (here.symm.trans there)
      exact either.resolve_right (apart leading leads nonempty address (List.mem_of_getElem? here))

/-- A page of the plugin "demo" lights up the tab of the plugin "demo2" beside its own. -/
theorem plugin_lights_namesake :
    let path := "/telemetryui/plugins/demo/settings"
    let addresses := ["/telemetryui/plugins/demo", "/telemetryui/plugins/demo2"]
    matchingTabs {} path addresses = [0, 1] ∧ ¬OwnTabs {} path addresses := by
  intro path addresses
  refine ⟨by decide, ?_⟩
  intro own
  have under := own 1 (by decide) _ _ rfl rfl
  revert under
  unfold Under
  decide

end ReportCharts.Navigation
