import ReportCharts.Proofs.Yaml.FlowMapping
import ReportCharts.Yaml.Overrides

/-!
The text that JSON writes for partial options, read as YAML.

To YAML the text is a flow mapping of quoted keys with quoted and plain values. Its marks are
settled from the last to the first, so what a scan yields is stated together with the places of the
keys found in it: they all lie ahead, and none of them is the place of the mapping itself.
-/

namespace ReportCharts

open Json.Value (escaped stringText membersText moreMembersText)
open Overrides (isPrintable)
open Yaml

namespace Setting

def style : Setting → Style
  | .text _ => .doubleQuoted
  | _ => .plain

def content : Setting → String
  | .text content => content
  | setting => String.ofList setting.spelled

def tokens (entry : String × Setting) : List Token :=
  [.key, .scalar .doubleQuoted entry.1, .value, .scalar entry.2.style entry.2.content]

def entryTokens (first : Bool) : List (String × Setting) → List Token
  | [] => []
  | entry :: rest =>
      (if first then tokens entry else .flowEntry :: tokens entry) ++ entryTokens false rest

/-- Members of an object, as JSON writes them. -/
def members (given : List (String × Setting)) : List (String × Json.Value) :=
  given.map fun entry => (entry.1, entry.2.value)

theorem isAlphanum_of_style {setting : Setting} (plain : setting.style = .plain) :
    ∀ c ∈ setting.spelled, c.isAlphanum = true := by
  cases setting with
  | text content => cases plain
  | flag value =>
      apply List.all_eq_true.mp
      cases value <;> rfl
  | count value =>
      intro c mem
      rw [spelled_count] at mem
      simp [Char.isAlphanum, isDigit_of_mem_toDigits mem]

end Setting

namespace Yaml.Scan

open Setting

namespace Inside

variable {scan : Scan} {text : List Char}

theorem exists_stop_more (given : List (String × Setting)) :
    ∃ stop text, moreMembersText (members given) ++ ['\x7d'] = stop :: text ∧
      isFlowIndicator stop = true := by
  cases given with
  | nil => exact ⟨'\x7d', [], rfl, rfl⟩
  | cons entry given => exact ⟨',', _, rfl, rfl⟩

theorem emits_setting {setting : Setting} (printable : setting.Printable) {stop : Char}
    (stops : isFlowIndicator stop = true)
    (inside : Inside scan (setting.spelled ++ stop :: text) none false) :
    ∃ after, scan.Emits 1 [.token (.scalar setting.style setting.content)] after ∧
      Inside after (stop :: text) none false ∧ scan.cursor.index ≤ after.cursor.index := by
  cases setting with
  | text content => exact inside.emits_text printable
  | flag value => exact inside.emits_word (isAlphanum_of_style rfl) (spelled_ne_nil _) stops
  | count value => exact inside.emits_word (isAlphanum_of_style rfl) (spelled_ne_nil _) stops

end Inside

/--
From a place on the text is read to its end, and settling gives these tokens.

No key is found before the place.
-/
def Yields (scan : Scan) (tokens : List Token) : Prop :=
  ∃ items, (∀ fuel, scan.cursor.rest.length < fuel → scan.items fuel = some items) ∧
    (Item.settle items).1 = tokens ∧ ∀ key ∈ (Item.settle items).2, scan.cursor.index ≤ key.1

namespace Yields

variable {scan after : Scan} {count : Nat} {rest : List Token}

theorem items_before {found items : List Item} (emits : scan.Emits count found after)
    (room : after.cursor.rest.length + count ≤ scan.cursor.rest.length)
    (read : ∀ fuel, after.cursor.rest.length < fuel → after.items fuel = some items) :
    ∀ fuel, scan.cursor.rest.length < fuel → scan.items fuel = some (found ++ items) := by
  intro fuel enough
  obtain ⟨left, rfl⟩ : ∃ left, fuel = left + count := ⟨fuel - count, by omega⟩
  rw [emits, read left (by omega)]
  rfl

theorem token {token : Token} (emits : scan.Emits 1 [.token token] after)
    (room : after.cursor.rest.length + 1 ≤ scan.cursor.rest.length)
    (later : scan.cursor.index ≤ after.cursor.index) (yields : after.Yields rest) :
    scan.Yields (token :: rest) := by
  obtain ⟨items, read, rfl, ahead⟩ := yields
  refine ⟨_, items_before emits room read, rfl, ?_⟩
  intro key mem
  exact Nat.le_trans later (ahead key mem)

/-- The mark of a key is settled by what the colon behind it has found. -/
theorem key {name : Token} (emits : scan.Emits 2 [.mark scan.cursor.index, .token name,
      .keyAt scan.cursor.index false, .token .value] after)
    (room : after.cursor.rest.length + 2 ≤ scan.cursor.rest.length)
    (later : scan.cursor.index ≤ after.cursor.index) (yields : after.Yields rest) :
    scan.Yields (.key :: name :: .value :: rest) := by
  obtain ⟨items, read, rfl, ahead⟩ := yields
  refine ⟨_, items_before emits room read, by simp [Item.settle], ?_⟩
  intro key mem
  have either : key = (scan.cursor.index, false) ∨ key ∈ (Item.settle items).2 := by
    simpa [Item.settle] using mem
  rcases either with rfl | mem
  · exact Nat.le_refl _
  · exact Nat.le_trans later (ahead key mem)

end Yields

namespace Inside

variable {scan : Scan} {text : List Char} {rest : List Token}

theorem yields_closing {keyAllowed : Bool} (inside : Inside scan ['\x7d'] none keyAllowed) :
    scan.Yields [.flowMappingEnd] := by
  refine ⟨[.token .flowMappingEnd], ?_, rfl, by simp [Item.settle]⟩
  intro fuel enough
  rw [inside.rest, List.length_singleton] at enough
  obtain ⟨left, rfl⟩ := Nat.exists_eq_add_of_le' enough
  exact inside.items_closing left

theorem yields_entry {entry : String × Setting} (key : IsKey entry.1)
    (printable : entry.2.Printable) {given : List (String × Setting)}
    (inside : Inside scan (stringText entry.1 ++ ':' :: (entry.2.spelled ++
      (moreMembersText (members given) ++ ['\x7d']))) none true)
    (further : ∀ after, Inside after (moreMembersText (members given) ++ ['\x7d']) none false →
      after.Yields rest) :
    scan.Yields (tokens entry ++ rest) := by
  obtain ⟨stop, text, more, stops⟩ := exists_stop_more given
  rw [more] at inside further
  obtain ⟨next, emitsKey, insideNext, laterKey⟩ := inside.emits_key key
  obtain ⟨after, emitsValue, insideAfter, laterValue⟩ :=
    insideNext.emits_setting printable stops
  have roomValue : after.cursor.rest.length + 1 ≤ next.cursor.rest.length := by
    have some := List.length_pos_iff.mpr entry.2.spelled_ne_nil
    simp only [insideNext.rest, insideAfter.rest, List.length_append]
    omega
  have roomKey : next.cursor.rest.length + 2 ≤ scan.cursor.rest.length := by
    simp only [inside.rest, insideNext.rest, stringText, List.length_append, List.length_cons]
    omega
  have value := Yields.token emitsValue roomValue laterValue (further after insideAfter)
  exact Yields.key emitsKey roomKey laterKey value

theorem yields_more {given : List (String × Setting)} (keys : ∀ entry ∈ given, IsKey entry.1)
    (printable : ∀ entry ∈ given, entry.2.Printable)
    (inside : Inside scan (moreMembersText (members given) ++ ['\x7d']) none false) :
    scan.Yields (entryTokens false given ++ [.flowMappingEnd]) := by
  induction given generalizing scan with
  | nil => exact inside.yields_closing
  | cons entry given inductionHypothesis =>
      have written : moreMembersText (members (entry :: given)) ++ ['\x7d'] =
          ',' :: (stringText entry.1 ++ ':' :: (entry.2.spelled ++
            (moreMembersText (members given) ++ ['\x7d']))) := by
        simp [members, moreMembersText, Setting.spelled]
      rw [written] at inside
      obtain ⟨next, emits, insideNext, later⟩ := emits_comma inside
      have room : next.cursor.rest.length + 1 ≤ scan.cursor.rest.length := by
        rw [inside.rest, insideNext.rest]
        exact Nat.le_refl _
      have first := insideNext.yields_entry (keys entry (by simp)) (printable entry (by simp))
        fun after insideAfter => inductionHypothesis (fun entry mem => keys entry (by simp [mem]))
          (fun entry mem => printable entry (by simp [mem])) insideAfter
      simpa [entryTokens] using Yields.token emits room later first

theorem yields_mapping {given : List (String × Setting)} (keys : ∀ entry ∈ given, IsKey entry.1)
    (printable : ∀ entry ∈ given, entry.2.Printable)
    (inside : Inside scan (membersText (members given) ++ ['\x7d']) none true) :
    scan.Yields (entryTokens true given ++ [.flowMappingEnd]) := by
  cases given with
  | nil => exact inside.yields_closing
  | cons entry given =>
      have written : membersText (members (entry :: given)) ++ ['\x7d'] =
          stringText entry.1 ++ ':' :: (entry.2.spelled ++
            (moreMembersText (members given) ++ ['\x7d'])) := by
        simp [members, membersText, Setting.spelled]
      rw [written] at inside
      have first := inside.yields_entry (keys entry (by simp)) (printable entry (by simp))
        fun after insideAfter => yields_more (fun entry mem => keys entry (by simp [mem]))
          (fun entry mem => printable entry (by simp [mem])) insideAfter
      simpa [entryTokens] using first

end Inside

end Yaml.Scan

namespace Setting

def written (given : List (String × Setting)) : List Char := (Json.Value.object (members given)).text

theorem isPrintable_stringText {content : String}
    (printable : ∀ c ∈ content.toList, isPrintable c = true) :
    ∀ c ∈ stringText content, isPrintable c = true := by
  intro c mem
  have either : c = '"' ∨ (∃ d ∈ content.toList, c ∈ escaped d) ∨ c = '"' := by
    simpa [stringText] using mem
  rcases either with rfl | ⟨d, memContent, memEscaped⟩ | rfl
  · rfl
  · rcases escaped_of_isPrintable (printable d memContent) with ⟨-, same⟩ | ⟨-, -, same⟩
    · have either : c = '\\' ∨ c = d := by simpa [same] using memEscaped
      rcases either with rfl | rfl
      · rfl
      · exact printable c memContent
    · obtain rfl : c = d := by simpa [same] using memEscaped
      exact printable c memContent
  · rfl

theorem isPrintable_of_isAlphanum {c : Char} (letter : c.isAlphanum = true) :
    isPrintable c = true := by
  have ranges : c.isAlphanum = ((decide (c.val ≥ 65 ∧ c.val ≤ 90) ||
      c.val ≥ 97 && c.val ≤ 122) || c.val ≥ 48 && c.val ≤ 57) := rfl
  simp only [ranges, Bool.or_eq_true, Bool.and_eq_true, decide_eq_true_eq, ge_iff_le,
    UInt32.le_iff_toNat_le] at letter
  change (65 ≤ c.toNat ∧ c.toNat ≤ 90 ∨ 97 ≤ c.toNat ∧ c.toNat ≤ 122) ∨
    48 ≤ c.toNat ∧ c.toNat ≤ 57 at letter
  simp only [isPrintable, Bool.and_eq_true, decide_eq_true_eq]
  omega

theorem isPrintable_spelled {setting : Setting} (printable : setting.Printable) :
    ∀ c ∈ setting.spelled, isPrintable c = true := by
  cases setting with
  | text content => exact isPrintable_stringText printable
  | flag value => exact fun c mem => isPrintable_of_isAlphanum (isAlphanum_of_style rfl c mem)
  | count value => exact fun c mem => isPrintable_of_isAlphanum (isAlphanum_of_style rfl c mem)

theorem isPrintable_more {given : List (String × Setting)} (keys : ∀ entry ∈ given, IsKey entry.1)
    (printable : ∀ entry ∈ given, entry.2.Printable) :
    ∀ c ∈ moreMembersText (members given), isPrintable c = true := by
  induction given with
  | nil => simp [members, moreMembersText]
  | cons entry given inductionHypothesis =>
      intro c mem
      have key := isPrintable_stringText (keys entry (by simp)).1
      have value := isPrintable_spelled (printable entry (by simp))
      have more := inductionHypothesis (fun entry mem => keys entry (by simp [mem]))
        fun entry mem => printable entry (by simp [mem])
      have place : c = ',' ∨ c ∈ stringText entry.1 ∨ c = ':' ∨ c ∈ entry.2.spelled ∨
          c ∈ moreMembersText (members given) := by
        simpa [members, moreMembersText, spelled] using mem
      rcases place with rfl | mem | rfl | mem | mem
      · rfl
      · exact key c mem
      · rfl
      · exact value c mem
      · exact more c mem

theorem isPrintable_written {given : List (String × Setting)}
    (keys : ∀ entry ∈ given, IsKey entry.1) (printable : ∀ entry ∈ given, entry.2.Printable) :
    ∀ c ∈ written given, isPrintable c = true := by
  intro c mem
  have place : c = '\x7b' ∨ c ∈ membersText (members given) ∨ c = '\x7d' := by
    simpa [written, Json.Value.text] using mem
  rcases place with rfl | mem | rfl
  · rfl
  · cases given with
    | nil => simp [members, membersText] at mem
    | cons entry given =>
        apply isPrintable_more keys printable
        simp only [members, List.map_cons, membersText, moreMembersText] at mem ⊢
        exact List.mem_cons_of_mem _ mem
  · rfl

theorem ofText?_written {given : List (String × Setting)} (keys : ∀ entry ∈ given, IsKey entry.1)
    (printable : ∀ entry ∈ given, entry.2.Printable) :
    Token.ofText? (String.ofList (written given)) =
      some (.flowMapping :: (entryTokens true given ++ [.flowMappingEnd])) := by
  have allowed : (written given).all isAllowed = true := by
    rw [List.all_eq_true]
    intro c mem
    have shown := isPrintable_written keys printable c mem
    simp only [isPrintable, Bool.and_eq_true, decide_eq_true_eq] at shown
    simp [isAllowed, shown]
  obtain ⟨after, emits, inside, index⟩ :=
    Scan.emits_opening (membersText (members given) ++ ['\x7d']) rfl
  obtain ⟨items, read, settled, ahead⟩ := inside.yields_mapping keys printable
  have fresh : (Item.settle items).2.lookup 0 = none := by
    rw [List.lookup_eq_none_iff]
    intro key mem
    have later := ahead key mem
    rw [index] at later
    exact bne_iff_ne.mpr (Nat.ne_of_lt later)
  have room : after.cursor.rest.length < (written given).length := by
    rw [inside.rest]
    exact Nat.lt_succ_self _
  have all : Scan.items ((written given).length + 1) ⟨.start (written given), [], none, [], true⟩ =
      some ([.mark 0, .token .flowMapping] ++ items) := by
    refine (emits _).trans ?_
    rw [read _ room]
    rfl
  simp [Token.ofText?, allowed, all, Item.settle, fresh, settled]

end Setting

namespace Setting

def node (setting : Setting) : Node := .scalar none none setting.style setting.content

def entryNodes (entry : String × Setting) : Node × Node :=
  (.scalar none none .doubleQuoted entry.1, entry.2.node)

variable (handles : Handles) (anchors : List (String × Nat))

theorem read_scalar (position : Position) (fuel : Nat) (style : Style) (text : String)
    (rest : List Token) :
    Node.read handles position (fuel + 1) ⟨.scalar style text :: rest, anchors⟩ =
      some (.scalar none none style text, ⟨rest, anchors⟩) := by
  simp [Node.read, Properties.read, Properties.define, Tokens.behind]

theorem readUnless_scalar {ends : List Token} {style : Style} {text : String}
    (notEnd : ends.contains (.scalar style text) = false) (position : Position) (fuel : Nat)
    (rest : List Token) :
    Node.readUnless ends handles position (fuel + 2) ⟨.scalar style text :: rest, anchors⟩ =
      some (.scalar none none style text, ⟨rest, anchors⟩) := by
  rw [Node.readUnless]
  simp only [Tokens.atAny, List.head?_cons, Option.any_some, notEnd, Bool.false_eq_true, if_false]
  exact read_scalar handles anchors position fuel style text rest

theorem readFlowEntries_entry (entry : String × Setting) (first : Bool) (fuel : Nat)
    (rest : List Token) :
    Node.readFlowEntries handles first (fuel + 3)
        ⟨(if first then tokens entry else .flowEntry :: tokens entry) ++ rest, anchors⟩ =
      (Node.readFlowEntries handles false (fuel + 2) ⟨rest, anchors⟩).map fun (entries, left) =>
        (entryNodes entry :: entries, left) := by
  have key : Node.readUnless [.value, .flowEntry, .flowMappingEnd] handles .flow (fuel + 2)
      ⟨.scalar .doubleQuoted entry.1 :: .value :: .scalar entry.2.style entry.2.content :: rest,
        anchors⟩ = some ((entryNodes entry).1, _) :=
    readUnless_scalar handles anchors rfl .flow fuel _
  have value : Node.readUnless [.flowEntry, .flowMappingEnd] handles .flow (fuel + 2)
      ⟨.scalar entry.2.style entry.2.content :: rest, anchors⟩ =
        some ((entryNodes entry).2, ⟨rest, anchors⟩) :=
    readUnless_scalar handles anchors rfl .flow fuel rest
  rw [Node.readFlowEntries]
  cases first
  all_goals
    simp [tokens, Tokens.expect, Tokens.behind, key, value]
    cases Node.readFlowEntries handles false (fuel + 2) ⟨rest, anchors⟩ <;> rfl

theorem readFlowEntries_closing (first : Bool) (fuel : Nat) (rest : List Token) :
    Node.readFlowEntries handles first (fuel + 1) ⟨.flowMappingEnd :: rest, anchors⟩ =
      some ([], ⟨rest, anchors⟩) := by
  simp [Node.readFlowEntries, Tokens.behind]

theorem readFlowEntries_entryTokens {given : List (String × Setting)} (first : Bool)
    (rest : List Token) {fuel : Nat} (enough : given.length + 2 ≤ fuel) :
    Node.readFlowEntries handles first fuel
        ⟨entryTokens first given ++ .flowMappingEnd :: rest, anchors⟩ =
      some (given.map entryNodes, ⟨rest, anchors⟩) := by
  induction given generalizing first fuel with
  | nil =>
      obtain ⟨left, rfl⟩ := Nat.exists_eq_add_of_le' enough
      exact readFlowEntries_closing handles anchors first (left + 1) rest
  | cons entry given inductionHypothesis =>
      rw [List.length_cons] at enough
      obtain ⟨left, rfl⟩ := Nat.exists_eq_add_of_le' (show 3 ≤ fuel by omega)
      have more := inductionHypothesis false (show given.length + 2 ≤ left + 2 by omega)
      have step := readFlowEntries_entry handles anchors entry first left
        (entryTokens false given ++ .flowMappingEnd :: rest)
      rw [more, ← List.append_assoc] at step
      exact step

theorem length_le_length_entryTokens (first : Bool) (given : List (String × Setting)) :
    given.length ≤ (entryTokens first given).length := by
  induction given generalizing first with
  | nil => exact Nat.le_refl 0
  | cons entry given inductionHypothesis =>
      have more := inductionHypothesis false
      cases first <;> simp [entryTokens, tokens] <;> omega

/-- The document of the tokens is a mapping from the names to the settings. -/
theorem ofTokens?_entryTokens (given : List (String × Setting)) :
    Node.ofTokens? (.flowMapping :: (entryTokens true given ++ [.flowMappingEnd])) =
      some (.mapping none (given.map entryNodes)) := by
  have enough : given.length + 2 ≤ 4 * ((entryTokens true given).length + 1 + 1) + 3 := by
    have longer := length_le_length_entryTokens true given
    omega
  have read := readFlowEntries_entryTokens .default [] true [] enough
  simp [Node.ofTokens?, beginsExplicitly, Node.readLast, Node.read, Properties.read,
    Properties.define, Tokens.behind, read]

theorem isNull_of_digits {word : List Char} (digits : ∀ c ∈ word, c.isDigit = true) :
    isNull (String.ofList word) = false := by
  have other (text : String) (c : Char) (mem : c ∈ text.toList) (notDigit : c.isDigit = false) :
      String.ofList word ≠ text := by
    rintro rfl
    rw [String.toList_ofList] at mem
    exact Text.not_mem_of_test digits c notDigit mem
  simp [isNull, other "null" 'n' (by decide) rfl, other "Null" 'N' (by decide) rfl,
    other "NULL" 'N' (by decide) rfl, other "~" '~' (by decide) rfl]

/-- Quoted texts are given even where they spell null or nothing. -/
theorem isGiven?_node (setting : Setting) : setting.node.isGiven? = some true := by
  cases setting with
  | text content => rfl
  | flag value => cases value <;> decide
  | count value =>
      have digits (c : Char) (mem : c ∈ (count value).spelled) : c.isDigit = true := by
        rw [spelled_count] at mem
        exact isDigit_of_mem_toDigits mem
      simp [node, style, content, Node.isGiven?, spelled_ne_nil, isNull_of_digits digits]

theorem unsigned?_toDigits (value : Nat) : unsigned? (Nat.toDigits 10 value) = some value := by
  have noSign : (Nat.toDigits 10 value).head? ≠ some '+' := by
    intro sign
    exact Text.ne_of_test (isDigit_of_mem_toDigits (List.mem_of_head? sign)) '+' rfl rfl
  rw [unsigned?, if_neg noSign]
  split
  · next written => exact absurd written (toDigits_ne_zero_cons value _ _)
  · next written => exact absurd written (toDigits_ne_zero_cons value _ _)
  · next written => exact absurd written (toDigits_ne_zero_cons value _ _)
  · next written => exact absurd written (toDigits_ne_zero_cons value _ _)
  · exact Text.natural?_toDigits value

theorem option?_node {α : Type} (root : Node) (read : Node → Option α) (setting : Setting) :
    root.option? read setting.node = (read setting.node).map some := by
  have resolved : root.resolve setting.node = some setting.node := rfl
  simp [Node.option?, resolved, isGiven?_node]

/-- Whatever else the document holds, settings are read for what they stand for. -/
theorem reads_node (root : Node) : root.optionReader.Reads node where
  string := by
    intro text
    exact option?_node root _ (.text text)
  bool := by
    intro value
    refine (option?_node root _ (.flag value)).trans ?_
    cases value <;> decide
  uint32 := by
    intro value
    refine (option?_node root _ (.count value)).trans ?_
    have bare : Node.bare? "int" (count value).node =
        some (String.ofList (count value).spelled) := rfl
    have below := value.toNat_lt_size
    simp [bare, spelled_count, unsigned?_toDigits, below]
  position := by
    intro position
    refine (option?_node root _ (.text position.name)).trans ?_
    cases position <;> decide

theorem namedEntries?_entryNodes (root : Node) (given : List (String × Setting)) :
    root.namedEntries? (given.map entryNodes) =
      some (given.map fun entry => (entry.1, entry.2.node)) := by
  induction given with
  | nil => rfl
  | cons entry given inductionHypothesis =>
      rw [Node.namedEntries?] at inductionHypothesis ⊢
      rw [List.map_cons, List.mapM_cons, inductionHypothesis]
      rfl

end Setting

theorem Overrides.toText_eq (overrides : Overrides) :
    shape.toText overrides = String.ofList (Setting.written overrides.given) := by
  change String.ofList (Json.Value.object (record.members overrides)).text = _
  rw [members_eq]
  rfl

/-- The text that JSON writes for partial options gives them back when it is read as YAML. -/
theorem Overrides.ofYaml?_toText {overrides : Overrides} (printable : overrides.Printable) :
    ofYaml? (shape.toText overrides) = some overrides := by
  have keys (entry : String × Setting) (mem : entry ∈ overrides.given) : IsKey entry.1 := by
    have all : ∀ name ∈ names, IsKey name := by decide
    exact all entry.1 (key_mem_names mem)
  have tokens := Setting.ofText?_written keys printable.setting
  have named := Setting.namedEntries?_entryNodes
    (.mapping none (overrides.given.map Setting.entryNodes)) overrides.given
  have document : Node.ofText? (shape.toText overrides) =
      some (.mapping none (overrides.given.map Setting.entryNodes)) := by
    rw [Node.ofText?, toText_eq, tokens]
    exact Setting.ofTokens?_entryTokens overrides.given
  rw [ofYaml?, document]
  simp only [ofNode?, bind, Option.bind, named]
  exact ofEntries?_given (Setting.reads_node _) overrides

end ReportCharts
