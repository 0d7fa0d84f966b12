import ReportCharts.Proofs.Json.Grammar

/-!
JSON values as they are spelled, blanks and all, and what a reader makes of them.

A value that is spelled is read as its document, whatever follows it, as long as nothing that follows
would continue a number. Passing over it never fails, not even where its numbers are out of range or its
strings hold no text.
-/

namespace ReportCharts.Json

open Document

namespace Value

/-- Characters that begin a value; none of them is a blank or a closing bracket. -/
def Begins (c : Char) : Prop := isBlank c = false ∧ c ≠ ']' ∧ c ≠ '\x7d'

instance (c : Char) : Decidable (Begins c) :=
  inferInstanceAs (Decidable (isBlank c = false ∧ c ≠ ']' ∧ c ≠ '\x7d'))

theorem begins_of_isDigit {c : Char} (digit : c.isDigit = true) : Begins c := by
  refine ⟨?_, ?_, ?_⟩
  · simp only [isBlank, Bool.or_eq_false_iff, decide_eq_false_iff_not]
    refine ⟨⟨⟨?_, ?_⟩, ?_⟩, ?_⟩ <;> (rintro rfl; revert digit; decide)
  all_goals (rintro rfl; revert digit; decide)

theorem skipBlanks_of_begins {c : Char} (first : Begins c) (rest : List Char) :
    skipBlanks (c :: rest) = c :: rest := by
  simp [skipBlanks, first.1]

end Value

namespace Grammar

structure Padded (α : Type) where
  before : Blanks
  content : α
  after : Blanks

/-- A key and a value, with the blanks on both sides of the colon. -/
structure Member (α : Type) where
  key : List Piece
  behindKey : Blanks
  behindColon : Blanks
  value : α

inductive Spelling where
  | null
  | bool (value : Bool)
  | number (numeral : Numeral)
  | string (pieces : List Piece)
  | array (inside : Blanks) (items : List (Padded Spelling))
  | object (inside : Blanks) (members : List (Padded (Member Spelling)))

def comma (first : Bool) : List Char := if first then [] else [',']

namespace Spelling

mutual

def text : Spelling → List Char
  | .null => ['n', 'u', 'l', 'l']
  | .bool value => if value then ['t', 'r', 'u', 'e'] else ['f', 'a', 'l', 's', 'e']
  | .number numeral => numeral.text
  | .string pieces => quoted pieces
  | .array inside items => '[' :: (inside.text ++ (itemsText true items ++ [']']))
  | .object inside members => '\x7b' :: (inside.text ++ (membersText true members ++ ['\x7d']))

def itemsText : (first : Bool) → List (Padded Spelling) → List Char
  | _, [] => []
  | first, ⟨before, item, after⟩ :: items =>
      comma first ++ (before.text ++ (text item ++ (after.text ++ itemsText false items)))

def membersText : (first : Bool) → List (Padded (Member Spelling)) → List Char
  | _, [] => []
  | first, ⟨before, ⟨key, behindKey, behindColon, value⟩, after⟩ :: members =>
      comma first ++ (before.text ++ (quoted key ++ (behindKey.text ++
        ':' :: (behindColon.text ++ (text value ++ (after.text ++ membersText false members))))))

end

mutual

def document (rounding : Binary64.Rounding) : Spelling → Document
  | .null => .null
  | .bool value => .bool value
  | .number numeral => .number (numeral.literal.value rounding)
  | .string pieces => .string (held pieces)
  | .array _ items => .array (itemDocuments rounding items) .closed
  | .object _ members => .object (memberDocuments rounding members) .closed

def itemDocuments (rounding : Binary64.Rounding) : List (Padded Spelling) → List Document
  | [] => []
  | ⟨_, item, _⟩ :: items => document rounding item :: itemDocuments rounding items

def memberDocuments (rounding : Binary64.Rounding) :
    List (Padded (Member Spelling)) → List (Except Fault String × Document)
  | [] => []
  | ⟨_, ⟨key, _, _, value⟩, _⟩ :: members =>
      (held key, document rounding value) :: memberDocuments rounding members

end

mutual

/-- Nothing in a value stops a reader that passes over it. -/
theorem skip_document (rounding : Binary64.Rounding) :
    ∀ spelling : Spelling, (spelling.document rounding).skip = .ok ()
  | .null | .bool _ | .number _ | .string _ => rfl
  | .array _ items => by
      rw [document, skip, skipItems_itemDocuments rounding items]
      rfl
  | .object _ members => by
      rw [document, skip, skipMembers_memberDocuments rounding members]
      rfl

theorem skipItems_itemDocuments (rounding : Binary64.Rounding) :
    ∀ items, skipItems (itemDocuments rounding items) = .ok ()
  | [] => rfl
  | ⟨_, item, _⟩ :: items => by
      rw [itemDocuments, skipItems, skip_document rounding item]
      exact skipItems_itemDocuments rounding items

theorem skipMembers_memberDocuments (rounding : Binary64.Rounding) :
    ∀ members, skipMembers (memberDocuments rounding members) = .ok ()
  | [] => rfl
  | ⟨_, ⟨_, _, _, value⟩, _⟩ :: members => by
      rw [memberDocuments, skipMembers, skip_document rounding value]
      exact skipMembers_memberDocuments rounding members

end

open Value

theorem readValue_number (rounding : Binary64.Rounding) (fuel : Nat) {c : Char}
    (first : c = '-' ∨ c.isDigit = true) (rest : List Char) :
    readValue rounding (fuel + 1) (c :: rest) = numberDocument rounding c (c :: rest) := by
  have begins : Begins c := by
    rcases first with rfl | digit
    · decide
    · exact begins_of_isDigit digit
  have other (d : Char) (distinct : ¬(d = '-' ∨ d.isDigit = true)) : c ≠ d := by
    rintro rfl
    exact distinct first
  rw [readValue, skipBlanks_of_begins begins]
  split
  · next same => cases same
  · next same => exact absurd (List.cons.inj same).1 (other 'n' (by decide))
  · next same => exact absurd (List.cons.inj same).1 (other 't' (by decide))
  · next same => exact absurd (List.cons.inj same).1 (other 'f' (by decide))
  · next same => exact absurd (List.cons.inj same).1 (other '"' (by decide))
  · next same => exact absurd (List.cons.inj same).1 (other '[' (by decide))
  · next same => exact absurd (List.cons.inj same).1 (other '\x7b' (by decide))
  · next same =>
      obtain ⟨rfl, rfl⟩ := List.cons.inj same
      rw [if_pos first]

section

variable (rounding : Binary64.Rounding) (fuel : Nat) (rest : List Char)

theorem readItems_first {c : Char} (first : Begins c) :
    readItems rounding (fuel + 1) true (c :: rest) = readItem rounding fuel (c :: rest) := by
  rw [readItems, skipBlanks_of_begins first]
  split
  · next same => cases same
  · next same => exact absurd (List.cons.inj same).1 first.2.1
  · next same =>
      obtain ⟨rfl, rfl⟩ := List.cons.inj same
      rfl

theorem readItems_comma {c : Char} (first : Begins c) {behind : List Char}
    (skips : skipBlanks behind = c :: rest) :
    readItems rounding (fuel + 1) false (',' :: behind) = readItem rounding fuel (c :: rest) := by
  have comma : skipBlanks (',' :: behind) = ',' :: behind := rfl
  rw [readItems, comma]
  split
  · next same => cases same
  · next same => exact absurd (List.cons.inj same).1 (by decide)
  · next same =>
      obtain ⟨rfl, rfl⟩ := List.cons.inj same
      rw [if_neg (by decide), if_pos rfl, skips]
      split
      · next same => cases same
      · next same => exact absurd (List.cons.inj same).1 first.2.1
      · rfl

theorem readItems_closed (first : Bool) :
    readItems rounding (fuel + 1) first (']' :: rest) = ([], .closed, rest) := rfl

theorem readMembers_comma {behind : List Char} (skips : skipBlanks behind = '"' :: rest) :
    readMembers rounding (fuel + 1) false (',' :: behind) =
      readMember rounding fuel ('"' :: rest) := by
  have comma : skipBlanks (',' :: behind) = ',' :: behind := rfl
  rw [readMembers, comma]
  simp [skips]

theorem readMembers_closed (first : Bool) :
    readMembers rounding (fuel + 1) first ('\x7d' :: rest) = ([], .closed, rest) := rfl

theorem readItems_blanks (first : Bool) (blanks : Blanks) :
    readItems rounding fuel first (blanks.text ++ rest) = readItems rounding fuel first rest := by
  cases fuel with
  | zero => rfl
  | succ fuel => rw [readItems, readItems, blanks.skipBlanks_append]

theorem readMembers_blanks (first : Bool) (blanks : Blanks) :
    readMembers rounding fuel first (blanks.text ++ rest) = readMembers rounding fuel first rest := by
  cases fuel with
  | zero => rfl
  | succ fuel => rw [readMembers, readMembers, blanks.skipBlanks_append]

theorem readValue_blanks (blanks : Blanks) :
    readValue rounding fuel (blanks.text ++ rest) = readValue rounding fuel rest := by
  cases fuel with
  | zero => rfl
  | succ fuel => rw [readValue, readValue, blanks.skipBlanks_append]

theorem readItems_item (first : Bool) (blanks : Blanks) {c : Char} (begins : Value.Begins c) :
    readItems rounding (fuel + 1) first (comma first ++ (blanks.text ++ c :: rest)) =
      readItem rounding fuel (c :: rest) := by
  have skips : skipBlanks (blanks.text ++ c :: rest) = c :: rest :=
    (blanks.skipBlanks_append _).trans (Value.skipBlanks_of_begins begins rest)
  cases first with
  | true =>
      exact (readItems_blanks rounding _ _ true blanks).trans (readItems_first rounding fuel rest begins)
  | false => exact readItems_comma rounding fuel rest begins skips

theorem readMembers_member (first : Bool) (blanks : Blanks) :
    readMembers rounding (fuel + 1) first (comma first ++ (blanks.text ++ '"' :: rest)) =
      readMember rounding fuel ('"' :: rest) := by
  have skips : skipBlanks (blanks.text ++ '"' :: rest) = '"' :: rest := blanks.skipBlanks_append _
  cases first with
  | true => exact readMembers_blanks rounding _ _ true blanks
  | false => exact readMembers_comma rounding fuel rest skips

theorem readValue_quoted (pieces : List Piece) :
    readValue rounding (fuel + 1) (quoted pieces ++ rest) = (.string (held pieces), rest) := by
  have quote (more : List Char) : skipBlanks ('"' :: more) = '"' :: more := rfl
  rw [quoted, List.cons_append, readValue, quote]
  simp only [stringDocument, lexemes_pieces, stringOf_closed]
  rfl

theorem readMember_quoted (key : List Piece) (behindKey : Blanks) :
    readMember rounding (fuel + 1) (quoted key ++ (behindKey.text ++ ':' :: rest)) =
      let (value, rest) := readValue rounding fuel rest
      let (members, stop, rest) := readMembers rounding fuel false rest
      ((held key, value) :: members, stop, rest) := by
  have colon : skipBlanks (behindKey.text ++ ':' :: rest) = ':' :: rest :=
    behindKey.skipBlanks_append _
  rw [quoted, List.cons_append, readMember, lexemes_pieces]
  simp only [colon, stringOf_closed]
  rfl

end

theorem text_eq_cons (spelling : Spelling) : ∃ c rest, spelling.text = c :: rest ∧ Value.Begins c := by
  cases spelling with
  | null => exact ⟨'n', _, by rw [text], by decide⟩
  | bool value =>
      cases value with
      | false => exact ⟨'f', ['a', 'l', 's', 'e'], by simp [text], by decide⟩
      | true => exact ⟨'t', ['r', 'u', 'e'], by simp [text], by decide⟩
  | string pieces => exact ⟨'"', _, by rw [text, quoted], by decide⟩
  | array inside items => exact ⟨'[', _, by rw [text], by decide⟩
  | object inside members => exact ⟨'\x7b', _, by rw [text], by decide⟩
  | number numeral =>
      obtain ⟨c, rest, written, first⟩ := numeral.exists_cons
      refine ⟨c, rest, by rw [text, written], ?_⟩
      rcases first with rfl | isDigit
      · decide
      · exact Value.begins_of_isDigit isDigit

theorem length_text_pos (spelling : Spelling) : 0 < spelling.text.length := by
  obtain ⟨c, rest, written, -⟩ := spelling.text_eq_cons
  simp [written]

/-- What stands behind an item or a member never continues a number. -/
theorem endsNumber_moreItems (items : List (Padded Spelling)) (rest : List Char) :
    EndsNumber (itemsText false items ++ ']' :: rest) := by
  cases items with
  | nil => exact ⟨rfl, by decide, by decide, by decide⟩
  | cons item items => exact ⟨rfl, by decide, by decide, by decide⟩

theorem endsNumber_moreMembers (members : List (Padded (Member Spelling))) (rest : List Char) :
    EndsNumber (membersText false members ++ '\x7d' :: rest) := by
  cases members with
  | nil => exact ⟨rfl, by decide, by decide, by decide⟩
  | cons member members => exact ⟨rfl, by decide, by decide, by decide⟩

-- The induction is on the value. Reading takes up to three steps of fuel for a character, and no value
-- is spelled without one, so fuel of three times the text is enough for each part of it.
mutual

/-- A value that is spelled is taken up whole, and read as its document. -/
theorem readValue_text (rounding : Binary64.Rounding) :
    ∀ (spelling : Spelling) (fuel : Nat) (rest : List Char), EndsNumber rest →
      3 * spelling.text.length ≤ fuel →
      readValue rounding fuel (spelling.text ++ rest) = (spelling.document rounding, rest)
  | .null, fuel + 1, rest, _, _ => by
      simp [text, document, readValue, skipBlanks, isBlank, wordDocument, readWord]
  | .bool true, fuel + 1, rest, _, _ | .bool false, fuel + 1, rest, _, _ => by
      simp [text, document, readValue, skipBlanks, isBlank, wordDocument, readWord]
  | .number numeral, 0, _, _, enough => by
      have nonempty := length_text_pos (.number numeral)
      omega
  | .number numeral, fuel + 1, rest, stops, _ => by
      obtain ⟨c, more, written, first⟩ := numeral.exists_cons
      have read := readNumber_text numeral stops
      rw [written, List.cons_append] at read
      rw [text, written, List.cons_append, readValue_number rounding _ first, numberDocument, read,
        document]
  | .string pieces, fuel + 1, rest, _, _ => by
      rw [text, readValue_quoted, document]
  | .array inside items, fuel + 1, rest, _, enough => by
      simp only [text, List.length_cons, List.length_append, List.length_nil] at enough
      have readInside := readItems_text rounding true items fuel rest (by omega)
      have begins : text (.array inside items) ++ rest =
          '[' :: (inside.text ++ (itemsText true items ++ ']' :: rest)) := by
        simp [text]
      have bracket (behind : List Char) : skipBlanks ('[' :: behind) = '[' :: behind := rfl
      rw [begins, readValue, bracket]
      simp only [readItems_blanks, readInside, document]
  | .object inside members, fuel + 1, rest, _, enough => by
      simp only [text, List.length_cons, List.length_append, List.length_nil] at enough
      have readInside := readMembers_text rounding true members fuel rest (by omega)
      have begins : text (.object inside members) ++ rest =
          '\x7b' :: (inside.text ++ (membersText true members ++ '\x7d' :: rest)) := by
        simp [text]
      have bracket (behind : List Char) : skipBlanks ('\x7b' :: behind) = '\x7b' :: behind := rfl
      rw [begins, readValue, bracket]
      simp only [readMembers_blanks, readInside, document]

theorem readItems_text (rounding : Binary64.Rounding) :
    ∀ (first : Bool) (items : List (Padded Spelling)) (fuel : Nat) (rest : List Char),
      3 * (itemsText first items).length + 2 ≤ fuel →
      readItems rounding fuel first (itemsText first items ++ ']' :: rest) =
        (itemDocuments rounding items, .closed, rest)
  | first, [], fuel + 1, rest, _ => readItems_closed rounding fuel rest first
  | first, ⟨before, item, after⟩ :: items, fuel + 2, rest, enough => by
      obtain ⟨c, more, written, begins⟩ := item.text_eq_cons
      have nonempty := item.length_text_pos
      simp only [itemsText, List.length_append] at enough
      have stops := after.endsNumber_append (endsNumber_moreItems items rest)
      have readFirst := readValue_text rounding item fuel _ stops (by omega)
      have readMore := readItems_text rounding false items fuel rest (by omega)
      have opens : itemsText first (⟨before, item, after⟩ :: items) ++ ']' :: rest =
          comma first ++ (before.text ++
            (item.text ++ (after.text ++ (itemsText false items ++ ']' :: rest)))) := by
        simp [itemsText]
      rw [written, List.cons_append] at readFirst
      rw [opens, written, List.cons_append, readItems_item _ _ _ _ _ begins, readItem, readFirst]
      simp only [readItems_blanks, readMore, itemDocuments]

theorem readMembers_text (rounding : Binary64.Rounding) :
    ∀ (first : Bool) (members : List (Padded (Member Spelling))) (fuel : Nat) (rest : List Char),
      3 * (membersText first members).length + 2 ≤ fuel →
      readMembers rounding fuel first (membersText first members ++ '\x7d' :: rest) =
        (memberDocuments rounding members, .closed, rest)
  | first, [], fuel + 1, rest, _ => readMembers_closed rounding fuel rest first
  | first, ⟨before, ⟨key, behindKey, behindColon, value⟩, after⟩ :: members, fuel + 2, rest,
      enough => by
      simp only [membersText, List.length_append, List.length_cons] at enough
      have stops := after.endsNumber_append (endsNumber_moreMembers members rest)
      have readFirst := readValue_text rounding value fuel _ stops (by omega)
      have readMore := readMembers_text rounding false members fuel rest (by omega)
      have opens : membersText first
            (⟨before, ⟨key, behindKey, behindColon, value⟩, after⟩ :: members) ++ '\x7d' :: rest =
          comma first ++ (before.text ++ (quoted key ++ (behindKey.text ++ ':' :: (behindColon.text ++
            (value.text ++ (after.text ++ (membersText false members ++ '\x7d' :: rest))))))) := by
        simp [membersText]
      have member (behind : List Char) : readMembers rounding (fuel + 2) first
          (comma first ++ (before.text ++ (quoted key ++ behind))) =
            readMember rounding (fuel + 1) (quoted key ++ behind) :=
        readMembers_member rounding (fuel + 1) _ first before
      rw [opens, member, readMember_quoted]
      simp only [readValue_blanks, readFirst, readMembers_blanks, readMore, memberDocuments]

end

end Spelling

def Padded.toString (spelled : Padded Spelling) : String :=
  String.ofList (spelled.before.text ++ (spelled.content.text ++ spelled.after.text))

/-- The text of a value holds it and nothing else. -/
theorem Padded.ofText_toString (rounding : Binary64.Rounding) (spelled : Padded Spelling) :
    Document.ofText rounding spelled.toString.toList =
      (spelled.content.document rounding, spelled.after.text) := by
  have stops : EndsNumber spelled.after.text := by
    rw [← List.append_nil spelled.after.text]
    exact spelled.after.endsNumber_append trivial
  rw [toString, String.toList_ofList, Document.ofText, Spelling.readValue_blanks,
    Spelling.readValue_text rounding _ _ _ stops (by simp only [List.length_append]; omega)]

/-- The text of an object, with blanks before and after it. -/
structure ObjectText where
  before : Blanks
  inside : Blanks
  padded : List (Padded (Member Spelling))
  after : Blanks

def Member.entry (rounding : Binary64.Rounding) (member : Member Spelling) :
    Except Fault String × Document :=
  (held member.key, member.value.document rounding)

namespace ObjectText

def toString (object : ObjectText) : String :=
  String.ofList (object.before.text ++
    ((Spelling.object object.inside object.padded).text ++ object.after.text))

def members (object : ObjectText) : List (Member Spelling) := object.padded.map Padded.content

end ObjectText

theorem Spelling.memberDocuments_eq_map (rounding : Binary64.Rounding)
    (members : List (Padded (Member Spelling))) :
    memberDocuments rounding members = (members.map Padded.content).map (Member.entry rounding) := by
  induction members with
  | nil => rfl
  | cons member members inductionHypothesis =>
      rw [memberDocuments, inductionHypothesis]
      rfl

theorem ObjectText.ofText_toString (rounding : Binary64.Rounding) (object : ObjectText) :
    Document.ofText rounding object.toString.toList =
      (.object (object.members.map (Member.entry rounding)) .closed, object.after.text) := by
  have read := Padded.ofText_toString rounding
    ⟨object.before, .object object.inside object.padded, object.after⟩
  rw [members, ← Spelling.memberDocuments_eq_map]
  exact read

end Grammar

end ReportCharts.Json
