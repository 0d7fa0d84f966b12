import ReportCharts.Navigation

/-!
The leading path of a page and the tabs that begin with it.

Splitting a path, keeping some segments and joining them again comes to one cut, just before a separator,
so a leading path never ends inside a segment. Whatever begins with the whole path of a page begins with
its leading path as well, and so the page's own tab is among those found.
-/

namespace ReportCharts.Navigation

/-- A text is cut just before the separator that comes so many times, or stays whole without it. -/
def CutBefore (separator : Char) (count : Nat) (text leading : List Char) : Prop :=
  text.count separator < count ∧ leading = text ∨
    ∃ rest, text = leading ++ separator :: rest ∧ leading.count separator + 1 = count

section

variable {separator c : Char} {count : Nat} {text leading : List Char}

theorem CutBefore.cons_separator (cut : CutBefore separator count text leading) :
    CutBefore separator (count + 1) (separator :: text) (separator :: leading) := by
  rcases cut with ⟨few, rfl⟩ | ⟨rest, rfl, cut⟩
  · left
    rw [List.count_cons_self]
    exact ⟨Nat.succ_lt_succ few, rfl⟩
  · right
    refine ⟨rest, rfl, ?_⟩
    rw [List.count_cons_self, cut]

theorem CutBefore.cons_of_ne (cut : CutBefore separator count text leading) (other : c ≠ separator) :
    CutBefore separator count (c :: text) (c :: leading) := by
  rcases cut with ⟨few, rfl⟩ | ⟨rest, rfl, cut⟩
  · left
    rw [List.count_cons_of_ne other]
    exact ⟨few, rfl⟩
  · right
    refine ⟨rest, rfl, ?_⟩
    rw [List.count_cons_of_ne other]
    exact cut

theorem CutBefore.aligned (cut : CutBefore separator count text leading) :
    text = leading ∨ leading ++ [separator] <+: text := by
  rcases cut with ⟨-, rfl⟩ | ⟨rest, rfl, -⟩
  · exact .inl rfl
  · right
    exact ⟨rest, by simp⟩

theorem CutBefore.isPrefix (cut : CutBefore separator count text leading) : leading <+: text := by
  rcases cut with ⟨-, rfl⟩ | ⟨rest, rfl, -⟩
  · exact List.prefix_refl leading
  · exact List.prefix_append leading (separator :: rest)

/-- A cut that leaves two separators in front leaves something of every text that has anything. -/
theorem CutBefore.eq_nil_iff (cut : CutBefore separator count text leading) (several : 1 < count) :
    leading = [] ↔ text = [] := by
  rcases cut with ⟨-, rfl⟩ | ⟨rest, rfl, cut⟩
  · exact Iff.rfl
  · have whole : leading ++ separator :: rest ≠ [] := by simp
    refine ⟨?_, fun empty => absurd empty whole⟩
    rintro rfl
    rw [List.count_nil] at cut
    omega

theorem segments_ne_nil (separator : Char) (text : List Char) : segments separator text ≠ [] := by
  cases text with
  | nil => exact List.cons_ne_nil _ _
  | cons c rest =>
      unfold segments
      split
      · exact List.cons_ne_nil _ _
      · split
        · exact List.cons_ne_nil _ _
        · exact List.cons_ne_nil _ _

theorem joined_cons_of_ne_nil (first : List Char) {others : List (List Char)} (more : others ≠ []) :
    joined separator (first :: others) = first ++ separator :: joined separator others := by
  obtain ⟨second, rest, rfl⟩ := List.exists_cons_of_ne_nil more
  rfl

theorem joined_cons_cons (c : Char) (first : List Char) (others : List (List Char)) :
    joined separator ((c :: first) :: others) = c :: joined separator (first :: others) := by
  cases others with
  | nil => rfl
  | cons second rest => rfl

theorem cutBefore_joined_take (separator : Char) (text : List Char) {count : Nat}
    (some : 0 < count) :
    CutBefore separator count text (joined separator ((segments separator text).take count)) := by
  -- along the text; every separator that is passed leaves one segment fewer to be kept
  induction text generalizing count with
  | nil =>
      obtain ⟨count, rfl⟩ := Nat.exists_eq_add_of_lt some
      exact .inl ⟨by simp, by simp [segments, joined]⟩
  | cons c rest inductionHypothesis =>
      obtain ⟨count, rfl⟩ : ∃ fewer, count = fewer + 1 := ⟨count - 1, by omega⟩
      by_cases here : c = separator
      · subst here
        have parts : segments c (c :: rest) = [] :: segments c rest := by
          rw [segments, if_pos rfl]
        rw [parts, List.take_succ_cons]
        cases count with
        | zero =>
            right
            exact ⟨rest, rfl, rfl⟩
        | succ count =>
            have more : (segments c rest).take (count + 1) ≠ [] := by
              simpa using segments_ne_nil c rest
            rw [joined_cons_of_ne_nil [] more]
            exact (inductionHypothesis (Nat.succ_pos count)).cons_separator
      · obtain ⟨first, others, split⟩ :=
          List.exists_cons_of_ne_nil (segments_ne_nil separator rest)
        have parts : segments separator (c :: rest) = (c :: first) :: others := by
          rw [segments, if_neg here, split]
        have cut := inductionHypothesis (Nat.succ_pos count)
        rw [split, List.take_succ_cons] at cut
        rw [parts, List.take_succ_cons, joined_cons_cons]
        exact cut.cons_of_ne here

end

def FirstAt (sought text : List Char) (position : Nat) : Prop :=
  sought <+: text.drop position ∧ ∀ earlier < position, ¬sought <+: text.drop earlier

section

variable {sought text : List Char} {position : Nat}

theorem firstAt_zero_iff : FirstAt sought text 0 ↔ sought <+: text := by
  constructor
  · intro first
    exact first.1
  · intro front
    refine ⟨front, ?_⟩
    intro earlier before
    exact absurd before (Nat.not_lt_zero earlier)

theorem firstAt_succ_iff {c : Char} :
    FirstAt sought (c :: text) (position + 1) ↔
      ¬sought <+: c :: text ∧ FirstAt sought text position := by
  constructor
  · rintro ⟨here, before⟩
    refine ⟨before 0 (Nat.succ_pos position), here, ?_⟩
    intro earlier less
    exact before (earlier + 1) (Nat.succ_lt_succ less)
  · rintro ⟨notInFront, here, before⟩
    refine ⟨here, ?_⟩
    intro earlier less
    cases earlier with
    | zero => exact notInFront
    | succ earlier => exact before earlier (Nat.lt_of_succ_lt_succ less)

theorem not_firstAt_succ_of_nil : ¬FirstAt sought [] (position + 1) := by
  rintro ⟨here, before⟩
  rw [List.drop_nil] at here
  exact before 0 (Nat.succ_pos position) here

theorem position?_eq_some_iff : position? sought text = some position ↔ FirstAt sought text position := by
  induction text generalizing position with
  | nil =>
      cases position with
      | zero =>
          rw [firstAt_zero_iff, position?, List.prefix_nil, ← List.isEmpty_iff]
          cases sought.isEmpty <;> simp
      | succ position =>
          refine iff_of_false ?_ not_firstAt_succ_of_nil
          rw [position?]
          cases sought.isEmpty <;> simp
  | cons c rest inductionHypothesis =>
      rw [position?]
      by_cases front : sought <+: c :: rest
      · rw [if_pos (List.isPrefixOf_iff_prefix.mpr front)]
        cases position with
        | zero => simp [firstAt_zero_iff, front]
        | succ position => simp [firstAt_succ_iff, front]
      · rw [if_neg (fun found => front (List.isPrefixOf_iff_prefix.mp found))]
        cases position with
        | zero => simp [firstAt_zero_iff, front]
        | succ position => simp [firstAt_succ_iff, front, inductionHypothesis]

end

/-- A page of a plugin: the marker of plugins first occurs somewhere behind the start of its path. -/
def InPlugin (navigation : Navigation) (path : String) : Prop :=
  ∃ position, 0 < position ∧ FirstAt navigation.pluginMarker.toList path.toList position

theorem segmentCount_of_inPlugin {navigation : Navigation} {path : String}
    (plugin : navigation.InPlugin path) : navigation.segmentCount path.toList = 4 := by
  obtain ⟨position, behind, first⟩ := plugin
  obtain ⟨position, rfl⟩ := Nat.exists_eq_succ_of_ne_zero (Nat.ne_of_gt behind)
  rw [segmentCount, position?_eq_some_iff.mpr first]

theorem segmentCount_of_not_inPlugin {navigation : Navigation} {path : String}
    (plain : ¬navigation.InPlugin path) : navigation.segmentCount path.toList = 3 := by
  unfold segmentCount
  split
  · next position found =>
      exact absurd ⟨position + 1, Nat.succ_pos position, position?_eq_some_iff.mp found⟩ plain
  · rfl

section

variable {leading : List Char} {start index : Nat} {addresses : List String}

theorem mem_startingWith_cons_iff {address : String} :
    index ∈ startingWith leading start (address :: addresses) ↔
      index = start ∧ leading <+: address.toList ∨
        index ∈ startingWith leading (start + 1) addresses := by
  rw [startingWith]
  by_cases front : leading <+: address.toList
  · rw [if_pos (List.isPrefixOf_iff_prefix.mpr front), List.mem_cons, and_iff_left front]
  · rw [if_neg (fun found => front (List.isPrefixOf_iff_prefix.mp found))]
    simp [front]

theorem mem_startingWith_iff :
    index ∈ startingWith leading start addresses ↔
      ∃ offset address, index = start + offset ∧ addresses[offset]? = some address ∧
        leading <+: address.toList := by
  induction addresses generalizing start with
  | nil => simp [startingWith]
  | cons address rest inductionHypothesis =>
      rw [mem_startingWith_cons_iff, inductionHypothesis]
      constructor
      · rintro (⟨rfl, front⟩ | ⟨offset, other, rfl, here, front⟩)
        · exact ⟨0, address, rfl, rfl, front⟩
        · exact ⟨offset + 1, other, by omega, here, front⟩
      · rintro ⟨offset, other, rfl, here, front⟩
        cases offset with
        | zero =>
            obtain rfl := Option.some.inj here
            exact .inl ⟨rfl, front⟩
        | succ offset => exact .inr ⟨offset, other, by omega, here, front⟩

theorem le_of_mem_startingWith (member : index ∈ startingWith leading start addresses) :
    start ≤ index := by
  obtain ⟨offset, address, rfl, -⟩ := mem_startingWith_iff.mp member
  exact Nat.le_add_right start offset

theorem pairwise_startingWith (leading : List Char) (start : Nat) (addresses : List String) :
    (startingWith leading start addresses).Pairwise (· < ·) := by
  induction addresses generalizing start with
  | nil => exact List.Pairwise.nil
  | cons address rest inductionHypothesis =>
      have later := inductionHypothesis (start + 1)
      unfold startingWith
      split
      · refine List.pairwise_cons.mpr ⟨?_, later⟩
        intro index member
        exact Nat.lt_of_succ_le (le_of_mem_startingWith member)
      · exact later

end

section

variable {navigation : Navigation} {path : String} {leading : List Char}

theorem leadingPath?_of_ne_root (other : path ≠ navigation.rootPath) :
    navigation.leadingPath? path =
      some (joined '/' ((segments '/' path.toList).take
        (navigation.segmentCount path.toList))) := by
  rw [leadingPath?, if_neg other]

theorem matchingTabs_of_leadingPath? (leads : navigation.leadingPath? path = some leading)
    (some : leading ≠ []) (addresses : List String) :
    navigation.matchingTabs path addresses = startingWith leading 0 addresses := by
  obtain ⟨c, rest, rfl⟩ := List.exists_cons_of_ne_nil some
  rw [matchingTabs, leads]

theorem matchingTabs_of_empty (leads : navigation.leadingPath? path = some [])
    (addresses : List String) : navigation.matchingTabs path addresses = [] := by
  rw [matchingTabs, leads]

/-- Paths with one leading path have the same tabs, whatever follows it in them. -/
theorem matchingTabs_congr {one other : String}
    (same : navigation.leadingPath? one = navigation.leadingPath? other) (addresses : List String) :
    navigation.matchingTabs one addresses = navigation.matchingTabs other addresses := by
  rw [matchingTabs, matchingTabs, same]

/-- What a leading path is to a path: a cut at a separator, a later one for a page of a plugin. -/
structure Leads (navigation : Navigation) (leading : List Char) (path : String) : Prop where
  plugin : navigation.InPlugin path → CutBefore '/' 4 path.toList leading
  plain : ¬navigation.InPlugin path → CutBefore '/' 3 path.toList leading
  aligned : path.toList = leading ∨ leading ++ ['/'] <+: path.toList
  empty : leading = [] ↔ path = ""

/-- The tabs of a path are those that begin with its leading path, among them its own. -/
structure TabsLedBy (navigation : Navigation) (leading : List Char) (path : String)
    (addresses : List String) : Prop where
  ascending : (navigation.matchingTabs path addresses).Pairwise (· < ·)
  exact : ∀ position, position ∈ navigation.matchingTabs path addresses ↔
    path ≠ "" ∧ ∃ address, addresses[position]? = some address ∧ leading <+: address.toList
  own : path ≠ "" → ∀ (position : Nat) (address : String), addresses[position]? = some address →
    path.toList <+: address.toList → position ∈ navigation.matchingTabs path addresses
  least : navigation.firstTab? path addresses = (navigation.matchingTabs path addresses).min?

theorem cutBefore_of_leadingPath? (leads : navigation.leadingPath? path = some leading) :
    CutBefore '/' (navigation.segmentCount path.toList) path.toList leading ∧
      1 < navigation.segmentCount path.toList := by
  have several : 1 < navigation.segmentCount path.toList := by
    by_cases plugin : navigation.InPlugin path
    · rw [segmentCount_of_inPlugin plugin]
      decide
    · rw [segmentCount_of_not_inPlugin plugin]
      decide
  unfold leadingPath? at leads
  split at leads
  · cases leads
  · cases leads
    exact ⟨cutBefore_joined_take '/' path.toList (Nat.zero_lt_of_lt several), several⟩

theorem leads_of_leadingPath? (leads : navigation.leadingPath? path = some leading) :
    navigation.Leads leading path := by
  obtain ⟨cut, several⟩ := cutBefore_of_leadingPath? leads
  refine ⟨?_, ?_, cut.aligned, ?_⟩
  · intro plugin
    rwa [segmentCount_of_inPlugin plugin] at cut
  · intro plain
    rwa [segmentCount_of_not_inPlugin plain] at cut
  · rw [cut.eq_nil_iff several, String.toList_eq_nil_iff]

theorem mem_matchingTabs_iff (leads : navigation.leadingPath? path = some leading)
    {addresses : List String} {position : Nat} :
    position ∈ navigation.matchingTabs path addresses ↔
      path ≠ "" ∧ ∃ address, addresses[position]? = some address ∧ leading <+: address.toList := by
  have empty := (leads_of_leadingPath? leads).empty
  by_cases none : leading = []
  · subst none
    rw [matchingTabs_of_empty leads]
    simp [empty.mp rfl]
  · have some : path ≠ "" := fun same => none (empty.mpr same)
    rw [matchingTabs_of_leadingPath? leads none, mem_startingWith_iff, and_iff_right some]
    simp

theorem pairwise_matchingTabs (navigation : Navigation) (path : String) (addresses : List String) :
    (navigation.matchingTabs path addresses).Pairwise (· < ·) := by
  unfold matchingTabs
  split
  · exact List.Pairwise.nil
  · exact List.Pairwise.nil
  · exact pairwise_startingWith _ 0 addresses

theorem tabsLedBy_of_leadingPath? (leads : navigation.leadingPath? path = some leading)
    (addresses : List String) : navigation.TabsLedBy leading path addresses where
  ascending := navigation.pairwise_matchingTabs path addresses
  exact _ := mem_matchingTabs_iff leads
  own some position address here begins := by
    have front : leading <+: path.toList := (cutBefore_of_leadingPath? leads).1.isPrefix
    exact (mem_matchingTabs_iff leads).mpr ⟨some, address, here, front.trans begins⟩
  least := by
    have ascending := navigation.pairwise_matchingTabs path addresses
    rw [firstTab?, List.min?_eq_head? (ascending.imp fun less => Nat.min_eq_left (Nat.le_of_lt less))]

/--
Away from the root, the leading path of a page is its path cut at a separator, and it alone decides about
the tabs of the page, to which every tab at the page's own path or below it belongs.
-/
theorem leadingPath_decides (navigation : Navigation) (path : String)
    (other : path ≠ navigation.rootPath) :
    ∃ leading, navigation.leadingPath? path = some leading ∧ navigation.Leads leading path ∧
      (∀ addresses, navigation.TabsLedBy leading path addresses) ∧
      ∀ another addresses, navigation.leadingPath? another = some leading →
        navigation.matchingTabs another addresses = navigation.matchingTabs path addresses := by
  have leads := leadingPath?_of_ne_root other
  refine ⟨_, leads, leads_of_leadingPath? leads, tabsLedBy_of_leadingPath? leads, ?_⟩
  intro another addresses leadsAnother
  exact matchingTabs_congr (leadsAnother.trans leads.symm) addresses

theorem leadingPath_decides_plugin :
    let navigation : Navigation := {}
    let path := "/telemetryui/plugins/jitter//é"
    path ≠ navigation.rootPath ∧ navigation.InPlugin path ∧
      ∃ leading, navigation.leadingPath? path = some leading ∧
        CutBefore '/' 4 path.toList leading ∧
        0 ∈ navigation.matchingTabs path ["/telemetryui/plugins/jitter//é/3"] := by
  intro navigation path
  have other : path ≠ navigation.rootPath := by decide
  have plugin : navigation.InPlugin path :=
    ⟨12, by decide, position?_eq_some_iff.mp (by decide)⟩
  obtain ⟨leading, leads, cut, tabs, -⟩ := leadingPath_decides navigation path other
  refine ⟨other, plugin, leading, leads, cut.plugin plugin, ?_⟩
  exact (tabs _).own (by decide) 0 _ rfl (by decide)

end

end ReportCharts.Navigation
