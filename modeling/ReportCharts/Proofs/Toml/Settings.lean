import ReportCharts.Proofs.Overrides.Settings
import ReportCharts.Toml.Overrides

/-!
Settings as lines of a TOML document, read back as the entries of its root table.

A text is written as in JSON. Of printable characters only the quote and the backslash are escaped,
and TOML has the same escapes for these.
-/

namespace ReportCharts

namespace Setting

def tomlValue : Setting → Toml.Value
  | .text content => .string content
  | .flag value => .bool value
  | .count value => .integer value.toNat

def tomlLine (given : String × Setting) : List Char :=
  given.1.toList ++ ' ' :: '=' :: ' ' :: (given.2.spelled ++ ['\n'])

theorem tomlLine_ne_nil (given : String × Setting) : tomlLine given ≠ [] := by
  simp [tomlLine]

end Setting

/-- The document with one line for each option that is given. -/
def Overrides.toToml (overrides : Overrides) : String :=
  String.ofList (overrides.given.flatMap Setting.tomlLine)

namespace Toml

open Overrides (isPrintable)

theorem isTextChar_of_isPrintable {c : Char} (printable : isPrintable c = true) :
    isTextChar c = true := by
  simp only [isPrintable, Bool.and_eq_true, decide_eq_true_eq] at printable
  simp only [isTextChar, Bool.or_eq_true, Bool.and_eq_true, decide_eq_true_eq]
  omega

theorem readString_escaped {content : List Char} (printable : ∀ c ∈ content, isPrintable c = true)
    (rest : List Char) {fuel : Nat} (enough : content.length < fuel) :
    readString '"' fuel (content.flatMap Json.Value.escaped ++ '"' :: rest) =
      some (content, rest) := by
  induction content generalizing fuel with
  | nil =>
      obtain ⟨fuel, rfl⟩ := Nat.exists_eq_add_of_lt enough
      simp [readString]
  | cons c content inductionHypothesis =>
      obtain ⟨fuel, rfl⟩ := Nat.exists_eq_add_of_le' (Nat.succ_le_of_lt (Nat.zero_lt_of_lt enough))
      have readMore := inductionHypothesis (fun c mem => printable c (by simp [mem]))
        (show content.length < fuel by simpa using enough)
      rcases escaped_of_isPrintable (printable c (by simp)) with
        ⟨special, written⟩ | ⟨quote, slash, written⟩
      · rw [List.flatMap_cons, written]
        rcases special with rfl | rfl
        · simp [readString, escape?, readMore, StringRead.behind]
        · simp [readString, escape?, readMore, StringRead.behind]
      · rw [List.flatMap_cons, written]
        simp [readString, quote, slash, isTextChar_of_isPrintable (printable c (by simp)), readMore,
          StringRead.behind]

theorem readQuoted_stringText {content : String}
    (printable : ∀ c ∈ content.toList, isPrintable c = true) (rest : List Char) :
    readQuoted '"' (Json.Value.stringText content ++ '\n' :: rest) =
      some (content.toList, '\n' :: rest) := by
  have oneQuote : (Json.Value.stringText content ++ '\n' :: rest).take 3 ≠ ['"', '"', '"'] := by
    rw [Json.Value.stringText]
    cases letters : content.toList with
    | nil => simp
    | cons c letters =>
        rcases escaped_of_isPrintable (printable c (by simp [letters])) with
          ⟨special, written⟩ | ⟨quote, slash, written⟩
        · simp [List.flatMap_cons, written]
        · simp [List.flatMap_cons, written, quote]
  have longer : content.toList.length <
      (Json.Value.stringText content ++ '\n' :: rest).length + 1 := by
    have inside := length_le_length_flatMap escaped_ne_nil content.toList
    simp only [Json.Value.stringText, List.length_append, List.length_cons]
    omega
  rw [readQuoted, if_neg oneQuote]
  have read := readString_escaped printable ('\n' :: rest) longer
  simpa [Json.Value.stringText] using read

theorem isWordChar_of_isDigit {c : Char} (digit : c.isDigit = true) : isWordChar c = true := by
  simp [isWordChar, Char.isAlphanum, digit]

/-- Nothing but digits is neither a date nor a time. -/
theorem isMoment_of_digits {word : List Char} (digits : ∀ c ∈ word, c.isDigit = true) :
    isMoment word = false := by
  have other := Text.not_mem_of_test digits
  have noTime : afterTime? word = none := by
    unfold afterTime?
    split
    · exact absurd (by simp) (other ':' rfl)
    · rfl
  have noDate : afterDate? word = none := by
    unfold afterDate?
    split
    · exact absurd (by simp) (other '-' rfl)
    · rfl
  simp [isMoment, noTime, noDate]

theorem digits?_of_digits : ∀ {word : List Char}, word ≠ [] → (∀ c ∈ word, c.isDigit = true) →
    digits? Char.isDigit word = some word
  | [c], _, digits => by simp [digits?, digits c (by simp)]
  | c :: second :: word, _, digits => by
      have notUnderscore : second ≠ '_' := by
        exact Text.ne_of_test (digits second (by simp)) '_' rfl
      have readMore : digits? Char.isDigit (second :: word) = some (second :: word) :=
        digits?_of_digits (by simp) fun c mem => digits c (by simp [mem])
      simp [digits?, notUnderscore, digits c (by simp), readMore]

theorem takeSign_of_digits {word : List Char} (digits : ∀ c ∈ word, c.isDigit = true) :
    Binary64.takeSign word = (false, word) := by
  unfold Binary64.takeSign
  split
  · exact absurd (digits '-' (by simp)) (by decide)
  · exact absurd (digits '+' (by simp)) (by decide)
  · rfl

theorem ofWord?_toDigits {value : Nat} (small : (value : Int) ≤ Binary64.int64Max) :
    Value.ofWord? (Nat.toDigits 10 value) = some (.integer value) := by
  have digits (c : Char) (mem : c ∈ Nat.toDigits 10 value) : c.isDigit = true :=
    isDigit_of_mem_toDigits mem
  have other := Text.not_mem_of_test digits
  have whole : whole? (Nat.toDigits 10 value) = some (Nat.toDigits 10 value) := by
    rw [whole?, digits?_of_digits Nat.toDigits_ne_nil digits, Option.filter_some, if_pos]
    match written : Nat.toDigits 10 value with
    | [] => exact absurd written Nat.toDigits_ne_nil
    | [only] => simp
    | first :: second :: rest =>
        have : first ≠ '0' := by
          rintro rfl
          exact toDigits_ne_zero_cons value second rest written
        simp [this]
  have integer : integer? (Nat.toDigits 10 value) = some value := by
    have low : Binary64.int64Min ≤ value := by
      have : Binary64.int64Min ≤ 0 := by decide
      omega
    unfold integer?
    split
    · next written => exact absurd (by simp [written]) (other 'x' rfl)
    · next written => exact absurd (by simp [written]) (other 'o' rfl)
    · next written => exact absurd (by simp [written]) (other 'b' rfl)
    · simp [takeSign_of_digits digits, whole, Text.natural?_toDigits, low, small]
  have notTrue : Nat.toDigits 10 value ≠ ['t', 'r', 'u', 'e'] := fun written =>
    other 't' rfl (by simp [written])
  have notFalse : Nat.toDigits 10 value ≠ ['f', 'a', 'l', 's', 'e'] := fun written =>
    other 'f' rfl (by simp [written])
  simp [Value.ofWord?, notTrue, notFalse, isMoment_of_digits digits, integer]

theorem readValue_word {word : List Char} {value : Value} (nonempty : word ≠ [])
    (all : ∀ c ∈ word, isWordChar c = true) (read : Value.ofWord? word = some value)
    (rest : List Char) (fuel depth : Nat) :
    readValue (fuel + 1) depth (word ++ '\n' :: rest) = some (value, '\n' :: rest) := by
  have taken : takeWord (word ++ '\n' :: rest) = (word, '\n' :: rest) := by
    have stop : ¬isWordChar '\n' = true := by decide
    simp only [takeWord]
    rw [List.takeWhile_append_of_pos all, List.dropWhile_append_of_pos all,
      List.takeWhile_cons_of_neg stop, List.dropWhile_cons_of_neg stop, List.append_nil]
    rfl
  cases word with
  | nil => contradiction
  | cons c word =>
      have other := Text.ne_of_test (all c (by simp))
      rw [List.cons_append] at taken ⊢
      simp [readValue, other '"' rfl, other '\'' rfl, other '[' rfl, other '\x7b' rfl, taken, read]

theorem readValue_spelled {setting : Setting} (printable : setting.Printable) (rest : List Char)
    (fuel depth : Nat) :
    readValue (fuel + 1) depth (setting.spelled ++ '\n' :: rest) =
      some (setting.tomlValue, '\n' :: rest) := by
  cases setting with
  | text content =>
      have read := readQuoted_stringText printable rest
      change readValue (fuel + 1) depth (Json.Value.stringText content ++ '\n' :: rest) = _
      rw [Json.Value.stringText, List.cons_append] at read ⊢
      rw [readValue, if_pos (.inl rfl), read]
      simp [Setting.tomlValue]
  | flag value =>
      cases value with
      | true =>
          have letters : ∀ c ∈ (Setting.flag true).spelled, isWordChar c = true :=
            List.all_eq_true.mp rfl
          exact readValue_word (by decide) letters rfl rest fuel depth
      | false =>
          have letters : ∀ c ∈ (Setting.flag false).spelled, isWordChar c = true :=
            List.all_eq_true.mp rfl
          exact readValue_word (by decide) letters rfl rest fuel depth
  | count value =>
      rw [Setting.spelled_count]
      have small : ((value.toNat : Nat) : Int) ≤ Binary64.int64Max := by
        have limit : (UInt32.size : Int) ≤ Binary64.int64Max := by decide
        have below := value.toNat_lt_size
        omega
      exact readValue_word Nat.toDigits_ne_nil
        (fun c mem => isWordChar_of_isDigit (isDigit_of_mem_toDigits mem)) (ofWord?_toDigits small)
        rest fuel depth

def IsBare (name : String) : Prop :=
  name.toList ≠ [] ∧ ∀ c ∈ name.toList, isBareKeyChar c = true

instance (name : String) : Decidable (IsBare name) :=
  decidable_of_iff (name.toList ≠ [] ∧ name.toList.all isBareKeyChar = true) <| by
    rw [List.all_eq_true]
    rfl

namespace IsBare

variable {name : String} (bare : IsBare name)

include bare

theorem head : ∃ c letters, name.toList = c :: letters ∧ ∀ d, isBareKeyChar d = false → c ≠ d := by
  obtain ⟨nonempty, all⟩ := bare
  cases written : name.toList with
  | nil => exact absurd written nonempty
  | cons c letters =>
      refine ⟨c, letters, rfl, ?_⟩
      rintro _ notBare rfl
      rw [all c (by simp [written])] at notBare
      cases notBare

theorem skipBlanks_append (rest : List Char) :
    skipBlanks (name.toList ++ rest) = name.toList ++ rest := by
  obtain ⟨c, letters, written, other⟩ := bare.head
  have solid : isBlank c = false := by simp [isBlank, other ' ' rfl, other '\t' rfl]
  rw [written, List.cons_append, skipBlanks, List.dropWhile_cons_of_neg (by simp [solid])]

theorem readKeyPart_append (rest : List Char) :
    readKeyPart (name.toList ++ ' ' :: rest) = some (name, ' ' :: rest) := by
  have stop : ¬isBareKeyChar ' ' = true := by decide
  have taken : (name.toList ++ ' ' :: rest).takeWhile isBareKeyChar = name.toList := by
    rw [List.takeWhile_append_of_pos bare.2, List.takeWhile_cons_of_neg stop, List.append_nil]
  have dropped : (name.toList ++ ' ' :: rest).dropWhile isBareKeyChar = ' ' :: rest := by
    rw [List.dropWhile_append_of_pos bare.2, List.dropWhile_cons_of_neg stop]
  obtain ⟨c, letters, written, other⟩ := bare.head
  unfold readKeyPart
  split
  · next same =>
      rw [written, List.cons_append] at same
      exact absurd (List.cons.inj same).1 (other '"' rfl)
  · next same =>
      rw [written, List.cons_append] at same
      exact absurd (List.cons.inj same).1 (other '\'' rfl)
  · simp [taken, dropped, bare.1]

theorem path?_append (rest : List Char) :
    path? (name.toList ++ ' ' :: '=' :: rest) = some (⟨[], name⟩, '=' :: rest) := by
  have sign : skipBlanks (' ' :: '=' :: rest) = '=' :: rest := rfl
  simp only [path?, readPath, bare.skipBlanks_append, bare.readKeyPart_append, sign, bind,
    Option.bind]
  rfl

/-- The line of a setting is read as a member of the table it stands in. -/
theorem readLine_tomlLine {setting : Setting} (printable : setting.Printable) (rest : List Char) :
    readLine (Setting.tomlLine (name, setting) ++ rest) =
      some (.member ⟨[], name⟩ setting.tomlValue, rest) := by
  have line : Setting.tomlLine (name, setting) ++ rest =
      name.toList ++ ' ' :: '=' :: ' ' :: (setting.spelled ++ '\n' :: rest) := by
    simp [Setting.tomlLine]
  have notBlank : finishLine? (name.toList ++ ' ' :: '=' :: ' ' :: (setting.spelled ++
      '\n' :: rest)) = none := by
    obtain ⟨c, letters, written, other⟩ := bare.head
    rw [finishLine?, bare.skipBlanks_append, written, List.cons_append]
    simp [skipComment, other '#' rfl, newLine?, other '\n' rfl, other '\r' rfl]
  have value : skipBlanks (' ' :: (setting.spelled ++ '\n' :: rest)) =
      setting.spelled ++ '\n' :: rest := by
    obtain ⟨c, letters, written, begins⟩ := setting.spelled_eq_cons
    have solid : isBlank c = false := by
      have notBlank := begins.1
      simp only [Json.Document.isBlank, Bool.or_eq_false_iff, decide_eq_false_iff_not] at notBlank
      simp [isBlank, notBlank]
    rw [written, List.cons_append, skipBlanks, List.dropWhile_cons_of_pos (by decide),
      List.dropWhile_cons_of_neg (by simp [solid])]
  have ends : finishLine? ('\n' :: rest) = some rest := rfl
  rw [line, readLine, bare.skipBlanks_append]
  split
  · next same =>
      obtain ⟨c, letters, written, other⟩ := bare.head
      rw [written, List.cons_append] at same
      exact absurd (List.cons.inj same).1 (other '[' rfl)
  · next same =>
      obtain ⟨c, letters, written, other⟩ := bare.head
      rw [written, List.cons_append] at same
      exact absurd (List.cons.inj same).1 (other '[' rfl)
  · simp only [notBlank, bare.path?_append, bind, Option.bind, value,
      readValue_spelled printable rest, ends]
    rfl

end IsBare

theorem readAllLines_tomlLines {given : List (String × Setting)}
    (bare : ∀ entry ∈ given, IsBare entry.1) (printable : ∀ entry ∈ given, entry.2.Printable)
    {fuel : Nat} (enough : given.length < fuel) :
    readAllLines fuel (given.flatMap Setting.tomlLine) =
      some (given.map fun entry => .member ⟨[], entry.1⟩ entry.2.tomlValue) := by
  induction given generalizing fuel with
  | nil =>
      obtain ⟨fuel, rfl⟩ := Nat.exists_eq_add_of_lt enough
      rfl
  | cons entry given inductionHypothesis =>
      obtain ⟨fuel, rfl⟩ := Nat.exists_eq_add_of_le' (Nat.succ_le_of_lt (Nat.zero_lt_of_lt enough))
      obtain ⟨name, setting⟩ := entry
      have readFirst := (bare _ List.mem_cons_self).readLine_tomlLine
        (printable _ List.mem_cons_self) (given.flatMap Setting.tomlLine)
      have readMore := inductionHypothesis (fun entry mem => bare entry (by simp [mem]))
        (fun entry mem => printable entry (by simp [mem]))
        (show given.length < fuel by simpa using enough)
      have nonempty : Setting.tomlLine (name, setting) ++ given.flatMap Setting.tomlLine ≠ [] := by
        simp [Setting.tomlLine]
      rw [List.flatMap_cons, readAllLines]
      · simp [readFirst, readMore]
      · exact nonempty

theorem set_of_fresh {entries : Entries} {key : String} (fresh : key ∉ entries.map Prod.fst)
    (value : Value) : Entries.set key value entries = entries ++ [(key, value)] := by
  induction entries with
  | nil => rfl
  | cons entry entries inductionHypothesis =>
      obtain ⟨name, old⟩ := entry
      have other : name ≠ key := fun same => fresh (by simp [same])
      have rest := inductionHypothesis fun mem => fresh (List.mem_cons_of_mem _ mem)
      rw [Entries.set, if_neg other, rest, List.cons_append]

/-- Members with new names are appended to the root table. -/
theorem foldlM_add_members {entries : Entries} (document : Document)
    (outside : document.header = []) (distinct : (document.entries ++ entries).map Prod.fst |>.Nodup) :
    (entries.map fun entry => Line.member ⟨[], entry.1⟩ entry.2).foldlM Document.add document =
      some ⟨document.entries ++ entries, []⟩ := by
  induction entries generalizing document with
  | nil => simp [← outside]
  | cons entry entries inductionHypothesis =>
      obtain ⟨sofar, header⟩ := document
      obtain rfl : header = [] := outside
      obtain ⟨key, value⟩ := entry
      have fresh : key ∉ sofar.map Prod.fst := by
        intro mem
        rw [List.map_append, List.nodup_append] at distinct
        exact distinct.2.2 key mem key (by simp) rfl
      have absent : sofar.lookup key = none := by
        apply List.lookup_eq_none_iff.mpr
        intro entry mem
        exact bne_iff_ne.mpr fun same => fresh (same ▸ List.mem_map_of_mem mem)
      have added : Document.add ⟨sofar, []⟩ (.member ⟨[], key⟩ value) =
          some ⟨sofar ++ [(key, value)], []⟩ := by
        simp [Document.add, Entries.insertUnder, Entries.edit, Entries.insert, absent,
          set_of_fresh fresh]
      have rest := inductionHypothesis ⟨sofar ++ [(key, value)], []⟩ rfl (by simpa using distinct)
      rw [List.map_cons, List.foldlM_cons, added]
      simpa using rest

end Toml

namespace Setting

open Toml

/-- The TOML reader of options takes settings for what they stand for. -/
theorem reads_tomlValue : Value.optionReader.Reads tomlValue where
  string _ := rfl
  bool _ := rfl
  uint32 value := by
    have small : ((value.toNat : Nat) : Int) < UInt32.size := by
      have := value.toNat_lt_size
      omega
    simp only [Value.optionReader, tomlValue, Value.uint32?]
    rw [if_pos ⟨by omega, small⟩]
    simp
  position position := by cases position <;> rfl

end Setting

/-- Partial options of printable texts are read from their lines. -/
theorem Overrides.ofToml?_toToml {overrides : Overrides} (printable : overrides.Printable) :
    ofToml? overrides.toToml = some overrides := by
  have bare (entry : String × Setting) (mem : entry ∈ overrides.given) : Toml.IsBare entry.1 := by
    have all : ∀ name ∈ names, Toml.IsBare name := by decide
    exact all entry.1 (key_mem_names mem)
  have noMark : (overrides.given.flatMap Setting.tomlLine).head? ≠ some '\ufeff' := by
    cases given : overrides.given with
    | nil => simp
    | cons entry rest =>
        obtain ⟨c, letters, written, other⟩ := (bare entry (by simp [given])).head
        simp [Setting.tomlLine, written, other '\ufeff' rfl]
  have longer : overrides.given.length <
      (overrides.given.flatMap Setting.tomlLine).length + 1 := by
    have each := length_le_length_flatMap Setting.tomlLine_ne_nil overrides.given
    omega
  have lines := Toml.readAllLines_tomlLines bare printable.setting longer
  have distinct : ((overrides.given.map fun entry => (entry.1, entry.2.tomlValue)).map
      Prod.fst).Nodup := by
    rw [List.map_map]
    exact overrides.keys_given_sublist.nodup nodup_names
  have added := Toml.foldlM_add_members {} rfl (by simpa only [List.nil_append] using distinct)
  rw [List.map_map] at added
  have document : Toml.Document.ofText? overrides.toToml =
      some ⟨overrides.given.map fun entry => (entry.1, entry.2.tomlValue), []⟩ := by
    simp only [Toml.Document.ofText?, toToml, String.toList_ofList, if_neg noMark, lines, bind,
      Option.bind]
    exact added
  rw [ofToml?, document]
  exact ofEntries?_given Setting.reads_tomlValue overrides

end ReportCharts
