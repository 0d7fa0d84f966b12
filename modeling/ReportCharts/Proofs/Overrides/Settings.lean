import ReportCharts.OverrideEntries
import ReportCharts.Proofs.Json.Text
import ReportCharts.Schema.Options

/-!
Partial options as a list of settings, in the order in which every format writes them.

A setting is a text, a flag or a count; what is not given has none. A reader that takes each kind of
setting for what it stands for gets the partial options back from their settings.
-/

namespace ReportCharts

open Json

inductive Setting where
  | text (content : String)
  | flag (value : Bool)
  | count (value : UInt32)

def Setting.value : Setting → Value
  | .text content => .string content
  | .flag value => .bool value
  | .count value => .int value.toNat

namespace Overrides

/-- All options by name, with the settings of those that are given. -/
def settings (overrides : Overrides) : List (String × Option Setting) :=
  [("title", overrides.title.map .text),
    ("showTitle", overrides.showTitle.map .flag),
    ("titleFontSize", overrides.titleFontSize.map .count),
    ("showLegend", overrides.showLegend.map .flag),
    ("legendPosition", overrides.legendPosition.map fun position => .text position.name),
    ("stacked", overrides.stacked.map .flag),
    ("barThickness", overrides.barThickness.map .count),
    ("yAxisLabel", overrides.yAxisLabel.map .text),
    ("xAxisLabel", overrides.xAxisLabel.map .text),
    ("beginYAtZero", overrides.beginYAtZero.map .flag),
    ("responsive", overrides.responsive.map .flag)]

def present (settings : List (String × Option Setting)) : List (String × Setting) :=
  settings.flatMap fun option => option.2.toList.map (option.1, ·)

def given (overrides : Overrides) : List (String × Setting) := present overrides.settings

theorem presentMember_eq {β : Type} (shape : Shape β) (make : β → Setting)
    (same : ∀ value, shape.write value = (make value).value) (name : String) (value : Option β) :
    Record.presentMember name shape value =
      ((value.map make).toList.map (name, ·)).map fun given => (given.1, given.2.value) := by
  cases value with
  | none => rfl
  | some value => simp [Record.presentMember, same]

theorem members_eq (overrides : Overrides) : record.members overrides =
    overrides.given.map fun given => (given.1, given.2.value) := by
  have text := presentMember_eq .string .text fun _ => rfl
  have flag := presentMember_eq .bool .flag fun _ => rfl
  have count := presentMember_eq .uint32 .count fun _ => rfl
  have position := presentMember_eq LegendPosition.shape (fun position => .text position.name)
    fun _ => rfl
  simp [record, Record.omittable, Record.start, given, present, settings, text, flag, count,
    position]

theorem keys_present_sublist (settings : List (String × Option Setting)) :
    ((present settings).map Prod.fst).Sublist (settings.map Prod.fst) := by
  induction settings with
  | nil => exact List.Sublist.slnil
  | cons option settings inductionHypothesis =>
      obtain ⟨name, setting⟩ := option
      cases setting with
      | none => exact inductionHypothesis.cons name
      | some setting => exact inductionHypothesis.cons_cons name

theorem lookup_present {ν : Type} (write : Setting → ν) {settings : List (String × Option Setting)}
    (distinct : (settings.map Prod.fst).Nodup) {name : String} {setting : Option Setting}
    (mem : (name, setting) ∈ settings) :
    ((present settings).map fun given => (given.1, write given.2)).lookup name =
      setting.map write := by
  induction settings with
  | nil => cases mem
  | cons option settings inductionHypothesis =>
      obtain ⟨fresh, distinctRest⟩ := List.nodup_cons.mp distinct
      rcases List.mem_cons.mp mem with rfl | behind
      · cases setting with
        | some setting => simp [present]
        | none =>
            apply List.lookup_eq_none_iff.mpr
            intro entry memEntry
            obtain ⟨given, memPresent, rfl⟩ := List.mem_map.mp memEntry
            have known := (keys_present_sublist settings).subset (List.mem_map_of_mem memPresent)
            exact bne_iff_ne.mpr fun same => fresh (same ▸ known)
      · have other : name ≠ option.1 := fun same =>
          fresh (List.mem_map.mpr ⟨(name, setting), behind, same⟩)
        have rest := inductionHypothesis distinctRest behind
        obtain ⟨first, value⟩ := option
        cases value with
        | none => exact rest
        | some value =>
            have unequal : (name == first) = false := beq_false_of_ne other
            simpa [present, List.lookup_cons, unequal] using rest

theorem names_settings (overrides : Overrides) : overrides.settings.map Prod.fst = names := rfl

theorem nodup_names : names.Nodup := by decide

theorem keys_given_sublist (overrides : Overrides) :
    (overrides.given.map Prod.fst).Sublist names :=
  names_settings overrides ▸ keys_present_sublist overrides.settings

theorem key_mem_names {overrides : Overrides} {entry : String × Setting}
    (mem : entry ∈ overrides.given) : entry.1 ∈ names :=
  overrides.keys_given_sublist.subset (List.mem_map_of_mem mem)

end Overrides

/-- A reader of options that takes every setting, as it is written, for what it stands for. -/
structure OptionReader.Reads {ν : Type} (reader : OptionReader ν) (write : Setting → ν) : Prop where
  string : ∀ text, reader.string (write (.text text)) = some (some text)
  bool : ∀ value, reader.bool (write (.flag value)) = some (some value)
  uint32 : ∀ value, reader.uint32 (write (.count value)) = some (some value)
  position : ∀ position : LegendPosition,
    reader.position (write (.text position.name)) = some (some position)

namespace Overrides

theorem ofEntries?_given {ν : Type} {reader : OptionReader ν} {write : Setting → ν}
    (reads : reader.Reads write) (overrides : Overrides) :
    ofEntries? reader (overrides.given.map fun given => (given.1, write given.2)) =
      some overrides := by
  have entry {α : Type} (name : String) (read : ν → Option (Option α)) (make : α → Setting)
      (value : Option α) (mem : (name, value.map make) ∈ overrides.settings)
      (readsOne : ∀ value, read (write (make value)) = some (some value)) :
      entry? (overrides.given.map fun given => (given.1, write given.2)) name read =
        some value := by
    have found := lookup_present write (names_settings overrides ▸ nodup_names) mem
    unfold entry?
    rw [given, found]
    cases value with
    | none => rfl
    | some value => exact readsOne value
  have distinct : (((overrides.given.map fun given => (given.1, write given.2)).map
      (·.1)).filter names.contains).Nodup := by
    rw [List.map_map]
    exact (List.filter_sublist.trans overrides.keys_given_sublist).nodup nodup_names
  have title := entry "title" reader.string .text overrides.title
    (by simp [settings]) reads.string
  have showTitle := entry "showTitle" reader.bool .flag overrides.showTitle
    (by simp [settings]) reads.bool
  have titleFontSize := entry "titleFontSize" reader.uint32 .count overrides.titleFontSize
    (by simp [settings]) reads.uint32
  have showLegend := entry "showLegend" reader.bool .flag overrides.showLegend
    (by simp [settings]) reads.bool
  have legendPosition := entry "legendPosition" reader.position
    (fun position => .text position.name) overrides.legendPosition (by simp [settings])
    reads.position
  have stacked := entry "stacked" reader.bool .flag overrides.stacked
    (by simp [settings]) reads.bool
  have barThickness := entry "barThickness" reader.uint32 .count overrides.barThickness
    (by simp [settings]) reads.uint32
  have yAxisLabel := entry "yAxisLabel" reader.string .text overrides.yAxisLabel
    (by simp [settings]) reads.string
  have xAxisLabel := entry "xAxisLabel" reader.string .text overrides.xAxisLabel
    (by simp [settings]) reads.string
  have beginYAtZero := entry "beginYAtZero" reader.bool .flag overrides.beginYAtZero
    (by simp [settings]) reads.bool
  have responsive := entry "responsive" reader.bool .flag overrides.responsive
    (by simp [settings]) reads.bool
  rw [ofEntries?, if_pos distinct, title, showTitle, titleFontSize, showLegend, legendPosition,
    stacked, barThickness, yAxisLabel, xAxisLabel, beginYAtZero, responsive]
  rfl

def isPrintable (c : Char) : Bool := 0x20 ≤ c.toNat && c.toNat ≤ 0x7e

/-- The texts that a page has given; the names of positions are none of them. -/
def texts (overrides : Overrides) : List String :=
  [overrides.title, overrides.yAxisLabel, overrides.xAxisLabel].filterMap id

def Printable (overrides : Overrides) : Prop :=
  ∀ text ∈ overrides.texts, ∀ c ∈ text.toList, isPrintable c = true

instance (overrides : Overrides) : Decidable overrides.Printable :=
  decidable_of_iff (overrides.texts.all (·.toList.all isPrintable) = true) <| by
    simp only [List.all_eq_true]
    rfl

end Overrides

open Overrides (isPrintable)

theorem escaped_ne_nil (c : Char) : Value.escaped c ≠ [] := by
  unfold Value.escaped
  repeat' split
  all_goals simp

/-- Pieces that are never empty are no fewer than the characters they have together. -/
theorem length_le_length_flatMap {α β : Type} {pieces : α → List β}
    (nonempty : ∀ item, pieces item ≠ []) (items : List α) :
    items.length ≤ (items.flatMap pieces).length := by
  induction items with
  | nil => exact Nat.le_refl 0
  | cons item items inductionHypothesis =>
      have one := List.length_pos_iff.mpr (nonempty item)
      simp only [List.flatMap_cons, List.length_cons, List.length_append]
      omega

/-- Among printable characters only the quote and the backslash are escaped. -/
theorem escaped_of_isPrintable {c : Char} (printable : isPrintable c = true) :
    ((c = '"' ∨ c = '\\') ∧ Value.escaped c = ['\\', c]) ∨
      (c ≠ '"' ∧ c ≠ '\\' ∧ Value.escaped c = [c]) := by
  have notControl : ¬c.toNat < 0x20 := by
    simp only [isPrintable, Bool.and_eq_true, decide_eq_true_eq] at printable
    omega
  have other := Text.ne_of_test printable
  by_cases quote : c = '"'
  · exact .inl ⟨.inl quote, by simp [Value.escaped, quote]⟩
  by_cases slash : c = '\\'
  · exact .inl ⟨.inr slash, by simp [Value.escaped, slash]⟩
  refine .inr ⟨quote, slash, ?_⟩
  rw [Value.escaped, if_neg quote, if_neg slash, if_neg (other _ (by rfl)),
    if_neg (other _ (by rfl)), if_neg (other _ (by rfl)), if_neg (other _ (by rfl)),
    if_neg (other _ (by rfl)), if_neg notControl]

namespace Setting

/-- The characters of a setting, which are the same in every format. -/
def spelled (setting : Setting) : List Char := setting.value.text

theorem spelled_count (value : UInt32) : (count value).spelled = Nat.toDigits 10 value.toNat :=
  Number.text_ofNat value.toNat

theorem spelled_eq_cons (setting : Setting) :
    ∃ c rest, setting.spelled = c :: rest ∧ Value.Begins c := by
  apply Value.text_eq_cons
  cases setting with
  | text content => trivial
  | flag value => trivial
  | count value =>
      have small : value.toNat < UInt64.size :=
        Nat.lt_of_lt_of_le value.toNat_lt_size (by decide : UInt32.size ≤ UInt64.size)
      have low : Binary64.int64Min ≤ 0 := by decide
      exact ⟨by omega, by omega⟩

theorem spelled_ne_nil (setting : Setting) : setting.spelled ≠ [] := by
  obtain ⟨c, rest, written, -⟩ := setting.spelled_eq_cons
  simp [written]

def Printable : Setting → Prop
  | .text content => ∀ c ∈ content.toList, isPrintable c = true
  | _ => True

end Setting

theorem LegendPosition.printable_name (position : LegendPosition) :
    (Setting.text position.name).Printable := by
  apply List.all_eq_true.mp
  cases position <;> rfl

namespace Overrides

theorem Printable.setting {overrides : Overrides} (printable : overrides.Printable) :
    ∀ given ∈ overrides.given, given.2.Printable := by
  intro given mem
  obtain ⟨option, memSettings, memOption⟩ := List.mem_flatMap.mp mem
  obtain ⟨setting, isGiven, rfl⟩ := List.mem_map.mp memOption
  rw [Option.mem_toList] at isGiven
  have printableText {text : String} (mem : text ∈ overrides.texts) :
      (Setting.text text).Printable := printable text mem
  simp only [settings, List.mem_cons, List.not_mem_nil, or_false] at memSettings
  rcases memSettings with rfl | rfl | rfl | rfl | rfl | rfl | rfl | rfl | rfl | rfl | rfl
  all_goals obtain ⟨content, isContent, rfl⟩ := Option.map_eq_some_iff.mp isGiven
  · exact printableText (by simp [texts, isContent])
  · trivial
  · trivial
  · trivial
  · exact content.printable_name
  · trivial
  · trivial
  · exact printableText (by simp [texts, isContent])
  · exact printableText (by simp [texts, isContent])
  · trivial
  · trivial

end Overrides

end ReportCharts
