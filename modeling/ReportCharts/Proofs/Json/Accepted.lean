import ReportCharts.Proofs.Json.Spelling

/-!
The texts that a reader of JSON gets through.

Whatever is read without a fault of the grammar was spelled: it can be taken apart into blanks, a value as
the grammar has it and what follows. Together with the reading of spelled values this makes the grammar
exactly what readers take up.
-/

namespace ReportCharts.Json

open Document

namespace Grammar

def Blanks.append (first second : Blanks) : Blanks where
  text := first.text ++ second.text
  blank := List.forall_mem_append.mpr ⟨first.blank, second.blank⟩

theorem mem_blanks_of_isBlank {c : Char} (blank : Document.isBlank c = true) :
    c ∈ [' ', '\t', '\n', '\r'] := by
  simpa [Document.isBlank, or_assoc] using blank

theorem exists_blanks (text : List Char) : ∃ blanks : Blanks, text = blanks.text ++ skipBlanks text := by
  refine ⟨⟨text.takeWhile Document.isBlank, ?_⟩, List.takeWhile_append_dropWhile.symm⟩
  exact fun c member => mem_blanks_of_isBlank (List.all_eq_true.mp List.all_takeWhile c member)

theorem eq_append_of_readWord {word text rest : List Char} (read : readWord word text = .ok rest) :
    text = word ++ rest := by
  induction word generalizing text with
  | nil => exact Except.ok.inj read
  | cons expected word inductionHypothesis =>
      cases text with
      | nil => cases read
      | cons c text =>
          rw [readWord] at read
          split at read
          · next same => rw [same, inductionHypothesis read, List.cons_append]
          · cases read

theorem exists_hexDigits {a b c d : Char} {code : Nat} (read : hex4? a b c d = some code) :
    ∃ first second third fourth : HexDigit,
      (Piece.unit first second third fourth).text = ['\\', 'u', a, b, c, d] ∧
        (Piece.unit first second third fourth).lexeme = .unit code := by
  unfold hex4? at read
  split at read
  · next first second third fourth readFirst readSecond readThird readFourth =>
      obtain rfl := Option.some.inj read
      exact ⟨⟨a, first, readFirst⟩, ⟨b, second, readSecond⟩, ⟨c, third, readThird⟩,
        ⟨d, fourth, readFourth⟩, rfl, rfl⟩
  · cases read

theorem exists_pieces_of_lexemes {text rest : List Char} {lexed : List Lexeme}
    (read : lexemes text = (lexed, .closed rest)) :
    ∃ pieces, lexemesOf pieces = lexed ∧ text = pieces.flatMap Piece.text ++ '"' :: rest := by
  -- one more piece in front, of which the reader has taken up the text
  have further {front more behind : List Char} {read : List Lexeme} (piece : Piece)
      (written : front = piece.text ++ more)
      (others : ∃ pieces, lexemesOf pieces = read ∧ more = pieces.flatMap Piece.text ++ '"' :: behind) :
      ∃ pieces, lexemesOf pieces = piece.lexeme :: read ∧
        front = pieces.flatMap Piece.text ++ '"' :: behind := by
    obtain ⟨pieces, rfl, rfl⟩ := others
    exact ⟨piece :: pieces, rfl, by rw [written, List.flatMap_cons, List.append_assoc]⟩
  fun_induction lexemes text generalizing lexed with
  | case2 =>
      cases read
      exact ⟨[], rfl, rfl⟩
  | case4 a b c d behind code known more stop readBehind inductionHypothesis =>
      cases read
      obtain ⟨first, second, third, fourth, written, read⟩ := exists_hexDigits known
      rw [← read]
      refine further (.unit first second third fourth) ?_ (inductionHypothesis readBehind)
      rw [written]
      rfl
  | case7 mark behind _ _ c known more stop readBehind inductionHypothesis =>
      cases read
      exact further (.escape mark c known) rfl (inductionHypothesis readBehind)
  | case10 c behind noQuote atEnd _ _ inside printable more stop readBehind inductionHypothesis =>
      cases read
      have noSlash : c ≠ '\\' := by
        intro slash
        cases behind with
        | nil => exact atEnd slash rfl
        | cons next behind => exact inside next behind slash rfl
      exact further (.plain c (Nat.not_lt.mp printable) noQuote noSlash) rfl
        (inductionHypothesis readBehind)
  | case1 | case3 | case5 | case6 | case8 | case9 => cases read

theorem noDigit_ne_whole (text : List Char) (literal : Literal) (rest : List Char) :
    noDigit text ≠ .whole literal rest := by
  cases text <;> nofun

theorem exists_sign (text : List Char) :
    ∃ sign : Sign, sign.negative = (Binary64.takeSign text).1 ∧
      text = sign.text ++ (Binary64.takeSign text).2 := by
  unfold Binary64.takeSign
  split
  · exact ⟨.minus, rfl, rfl⟩
  · exact ⟨.plus, rfl, rfl⟩
  · exact ⟨.none, rfl, rfl⟩

theorem exists_digits {text : List Char} (begins : text.takeWhile Char.isDigit ≠ []) :
    ∃ digits : Digits, digits.text = text.takeWhile Char.isDigit ∧
      text = digits.text ++ text.dropWhile Char.isDigit :=
  ⟨⟨text.takeWhile Char.isDigit, begins, List.all_eq_true.mp List.all_takeWhile⟩, rfl,
    List.takeWhile_append_dropWhile.symm⟩

section

variable {negative integral : Bool} {whole decimals text rest : List Char} {literal : Literal}

theorem exists_markedExponent {mark : Char} (marks : mark = 'e' ∨ mark = 'E') {behind : List Char}
    (read : readExponent ⟨negative, whole, decimals, 0⟩ integral (mark :: behind) =
      .whole literal rest) :
    ∃ exponent : Exponent, mark :: behind = exponent.text ++ rest ∧
      literal = ⟨⟨negative, whole, decimals, Numeral.exponentOf (some exponent)⟩, false⟩ := by
  obtain ⟨sign, sameSign, signed⟩ := exists_sign behind
  by_cases begins : (Binary64.takeSign behind).2.takeWhile Char.isDigit = []
  · have stops : readExponent ⟨negative, whole, decimals, 0⟩ integral (mark :: behind) =
        noDigit (Binary64.takeSign behind).2 := by
      rcases marks with rfl | rfl <;> simp only [readExponent, begins]
    rw [stops] at read
    exact (noDigit_ne_whole _ _ _ read).elim
  · obtain ⟨digits, sameDigits, split⟩ := exists_digits begins
    obtain ⟨c, others, taken⟩ := List.exists_cons_of_ne_nil begins
    have reads : readExponent ⟨negative, whole, decimals, 0⟩ integral (mark :: behind) =
        .whole ⟨⟨negative, whole, decimals, Document.exponentOf sign.negative digits.text⟩, false⟩
          ((Binary64.takeSign behind).2.dropWhile Char.isDigit) := by
      rw [sameSign, sameDigits]
      rcases marks with rfl | rfl <;> simp only [readExponent, taken]
    rw [reads] at read
    cases read
    have spelled := signed.trans (congrArg (sign.text ++ ·) split)
    have known : mark ∈ ['e', 'E'] := by simpa using marks
    exact ⟨⟨mark, known, sign, digits⟩, by simpa [Exponent.text] using spelled, rfl⟩

theorem exists_exponent
    (read : readExponent ⟨negative, whole, decimals, 0⟩ integral text = .whole literal rest) :
    ∃ exponent : Option Exponent, text = Numeral.exponentText exponent ++ rest ∧
      literal = ⟨⟨negative, whole, decimals, Numeral.exponentOf exponent⟩,
        integral && exponent.isNone⟩ := by
  by_cases marked : ∃ mark behind, text = mark :: behind ∧ (mark = 'e' ∨ mark = 'E')
  · obtain ⟨mark, behind, rfl, marks⟩ := marked
    obtain ⟨exponent, written, same⟩ := exists_markedExponent marks read
    exact ⟨some exponent, written, by rw [same, Option.isNone_some, Bool.and_false]⟩
  · unfold readExponent at read
    split at read
    · exact absurd ⟨_, _, rfl, .inl rfl⟩ marked
    · exact absurd ⟨_, _, rfl, .inr rfl⟩ marked
    · cases read
      exact ⟨none, rfl, by simp [Numeral.exponentOf]⟩

theorem exists_decimals
    (read : readDecimals ⟨negative, whole, [], 0⟩ text = .whole literal rest) :
    ∃ (decimals : Option Digits) (exponent : Option Exponent),
      text = Numeral.decimalsText decimals ++ (Numeral.exponentText exponent ++ rest) ∧
        literal = ⟨⟨negative, whole, (decimals.map Digits.text).getD [], Numeral.exponentOf exponent⟩,
          decimals.isNone && exponent.isNone⟩ := by
  unfold readDecimals at read
  split at read
  · next behind =>
      split at read
      · exact (noDigit_ne_whole _ _ _ read).elim
      · next begins =>
          obtain ⟨digits, sameDigits, split⟩ := exists_digits begins
          obtain ⟨exponent, more, rfl⟩ := exists_exponent read
          refine ⟨some digits, exponent, ?_, ?_⟩
          · rw [split, more, Numeral.decimalsText, List.cons_append]
          · rw [Option.map_some, Option.getD_some, sameDigits]
            rfl
  · obtain ⟨exponent, more, rfl⟩ := exists_exponent read
    exact ⟨none, exponent, more, rfl⟩

theorem exists_whole (read : readWhole negative text = .whole literal rest) :
    ∃ numeral : Numeral, numeral.negative = negative ∧ numeral.literal = literal ∧
      text = numeral.whole.text ++
        (Numeral.decimalsText numeral.decimals ++ (Numeral.exponentText numeral.exponent ++ rest)) := by
  unfold readWhole at read
  split at read
  · exact (noDigit_ne_whole _ _ _ read).elim
  · cases read
  · next begins canonical =>
      obtain ⟨digits, sameDigits, split⟩ := exists_digits begins
      rw [← sameDigits] at read canonical
      obtain ⟨decimals, exponent, more, rfl⟩ := exists_decimals read
      have plain : digits.text.head? = some '0' → digits.text = ['0'] := by
        intro zero
        cases written : digits.text with
        | nil => exact absurd written digits.nonempty
        | cons c others =>
            rw [written] at zero
            obtain rfl := Option.some.inj zero
            cases others with
            | nil => rfl
            | cons next others => exact (canonical next others written).elim
      refine ⟨⟨negative, digits, plain, decimals, exponent⟩, rfl, rfl, ?_⟩
      rw [← more]
      exact split

end

theorem exists_numeral_of_readNumber {text rest : List Char} {literal : Literal}
    (read : readNumber text = .whole literal rest) :
    ∃ numeral : Numeral, numeral.literal = literal ∧ text = numeral.text ++ rest := by
  unfold readNumber at read
  split at read
  · obtain ⟨numeral, negative, same, rfl⟩ := exists_whole read
    exact ⟨numeral, same, by simp [Numeral.text, negative]⟩
  · obtain ⟨numeral, negative, same, rfl⟩ := exists_whole read
    exact ⟨numeral, same, by simp [Numeral.text, negative]⟩

namespace Spelling

/-- A value was spelled where it is read, behind blanks. -/
def Taken (rounding : Binary64.Rounding) (text : List Char) (read : Document × List Char) : Prop :=
  ∃ (before : Blanks) (spelling : Spelling), text = before.text ++ (spelling.text ++ read.2) ∧
    read.1 = spelling.document rounding

/-- Items were spelled where they are read, up to the bracket behind them. -/
def ItemsTaken (rounding : Binary64.Rounding) (first : Bool) (text : List Char)
    (read : List Document × Stop × List Char) : Prop :=
  ∃ (before : Blanks) (items : List (Padded Spelling)),
    text = before.text ++ (itemsText first items ++ ']' :: read.2.2) ∧
      read.1 = itemDocuments rounding items

def MembersTaken (rounding : Binary64.Rounding) (first : Bool) (text : List Char)
    (read : List (Except Fault String × Document) × Stop × List Char) : Prop :=
  ∃ (before : Blanks) (members : List (Padded (Member Spelling))),
    text = before.text ++ (membersText first members ++ '\x7d' :: read.2.2) ∧
      read.1 = memberDocuments rounding members

def ItemTaken (rounding : Binary64.Rounding) (text : List Char)
    (read : List Document × Stop × List Char) : Prop :=
  ∃ (before : Blanks) (item : Spelling) (after : Blanks) (items : List (Padded Spelling)),
    text = before.text ++ (item.text ++ (after.text ++ (itemsText false items ++ ']' :: read.2.2))) ∧
      read.1 = item.document rounding :: itemDocuments rounding items

def MemberTaken (rounding : Binary64.Rounding) (text : List Char)
    (read : List (Except Fault String × Document) × Stop × List Char) : Prop :=
  ∃ (member : Member Spelling) (after : Blanks) (members : List (Padded (Member Spelling))),
    text = quoted member.key ++ (member.behindKey.text ++ ':' :: (member.behindColon.text ++
      (member.value.text ++ (after.text ++ (membersText false members ++ '\x7d' :: read.2.2))))) ∧
        read.1 = member.entry rounding :: memberDocuments rounding members

/-- A text leads to another one over blanks, and over a comma unless the other one comes first. -/
inductive Leads : (first : Bool) → List Char → List Char → Prop
  | atOnce (text : List Char) : Leads true text (skipBlanks text)
  | overComma {text rest : List Char} (begins : skipBlanks text = ',' :: rest) :
      Leads false text (skipBlanks rest)

theorem Leads.exists_blanks {first : Bool} {text front : List Char} (leads : Leads first text front) :
    ∃ before lead : Blanks, text = before.text ++ (comma first ++ (lead.text ++ front)) := by
  cases leads with
  | atOnce =>
      obtain ⟨before, split⟩ := Grammar.exists_blanks text
      exact ⟨.none, before, split⟩
  | @overComma text rest begins =>
      obtain ⟨before, split⟩ := Grammar.exists_blanks text
      obtain ⟨lead, splitRest⟩ := Grammar.exists_blanks rest
      refine ⟨before, lead, split.trans ?_⟩
      rw [begins]
      exact congrArg (before.text ++ ',' :: ·) splitRest

section

variable {rounding : Binary64.Rounding} {text : List Char}

theorem Taken.of_skipBlanks {read : Document × List Char} (spelling : Spelling)
    (written : skipBlanks text = spelling.text ++ read.2)
    (document : read.1 = spelling.document rounding) : Taken rounding text read := by
  obtain ⟨before, split⟩ := exists_blanks text
  exact ⟨before, spelling, split.trans (congrArg (before.text ++ ·) written), document⟩

theorem taken_wordDocument {first : Char} {word rest : List Char} (spelling : Spelling)
    (spelled : spelling.text = first :: word) (begins : skipBlanks text = first :: rest)
    (accepted : (wordDocument first (spelling.document rounding) word rest).1.skip = .ok ()) :
    Taken rounding text (wordDocument first (spelling.document rounding) word rest) := by
  unfold wordDocument at accepted ⊢
  split at accepted
  · next behind read =>
      refine .of_skipBlanks spelling ?_ rfl
      rw [begins, spelled, eq_append_of_readWord read, List.cons_append]
  · cases accepted

theorem taken_stringDocument {rest : List Char} (begins : skipBlanks text = '"' :: rest)
    (accepted : (stringDocument rest).1.skip = .ok ()) :
    Taken rounding text (stringDocument rest) := by
  unfold stringDocument at accepted ⊢
  split at accepted
  · next behind read =>
      obtain ⟨pieces, rfl, written⟩ := exists_pieces_of_lexemes read
      refine .of_skipBlanks (.string pieces) ?_ ?_
      · rw [begins, written]
        simp [Spelling.text, quoted]
      · rw [document, held, ← stringOf_closed]
  · cases accepted

theorem taken_numberDocument {first : Char} {rest : List Char} (begins : skipBlanks text = rest)
    (accepted : (numberDocument rounding first rest).1.skip = .ok ()) :
    Taken rounding text (numberDocument rounding first rest) := by
  unfold numberDocument at accepted ⊢
  split at accepted
  · next behind read =>
      obtain ⟨numeral, rfl, written⟩ := exists_numeral_of_readNumber read
      exact .of_skipBlanks (.number numeral) (begins.trans written) rfl
  · cases accepted

theorem ItemTaken.items {first : Bool} {front : List Char} {read : List Document × Stop × List Char}
    (leads : Leads first text front) (taken : ItemTaken rounding front read) :
    ItemsTaken rounding first text read := by
  obtain ⟨before, lead, rfl⟩ := leads.exists_blanks
  obtain ⟨gap, item, after, items, rfl, documents⟩ := taken
  refine ⟨before, ⟨lead.append gap, item, after⟩ :: items, ?_, ?_⟩
  · simp [itemsText, Blanks.append]
  · rw [documents, itemDocuments]

theorem MemberTaken.members {first : Bool} {front : List Char}
    {read : List (Except Fault String × Document) × Stop × List Char}
    (leads : Leads first text front) (taken : MemberTaken rounding front read) :
    MembersTaken rounding first text read := by
  obtain ⟨before, lead, rfl⟩ := leads.exists_blanks
  obtain ⟨⟨key, behindKey, behindColon, value⟩, after, members, rfl, documents⟩ := taken
  refine ⟨before, ⟨lead, ⟨key, behindKey, behindColon, value⟩, after⟩ :: members, ?_, ?_⟩
  · simp [membersText]
  · rw [documents, memberDocuments, Member.entry]

end

/-- Nothing stops a reader that passes over items and the bracket behind them. -/
def ItemsPass (read : List Document × Stop × List Char) : Prop :=
  (Document.array read.1 read.2.1).skip = .ok ()

def MembersPass (read : List (Except Fault String × Document) × Stop × List Char) : Prop :=
  (Document.object read.1 read.2.1).skip = .ok ()

theorem itemsPass_iff {read : List Document × Stop × List Char} :
    ItemsPass read ↔ skipItems read.1 = .ok () ∧ read.2.1 = .closed := by
  rw [ItemsPass, skip]
  cases skipItems read.1 with
  | error fault => simp [bind, Except.bind]
  | ok _ => cases read.2.1 <;> simp [bind, Except.bind, Stop.skippedList]

theorem membersPass_iff {read : List (Except Fault String × Document) × Stop × List Char} :
    MembersPass read ↔ skipMembers read.1 = .ok () ∧ read.2.1 = .closed := by
  rw [MembersPass, skip]
  cases skipMembers read.1 with
  | error fault => simp [bind, Except.bind]
  | ok _ => cases read.2.1 <;> simp [bind, Except.bind, Stop.skippedObject]

theorem skipItems_cons_eq_ok_iff {item : Document} {items : List Document} :
    skipItems (item :: items) = .ok () ↔ item.skip = .ok () ∧ skipItems items = .ok () := by
  rw [skipItems]
  cases item.skip <;> simp [bind, Except.bind]

theorem skipMembers_cons_eq_ok_iff {key : Except Fault String} {value : Document}
    {members : List (Except Fault String × Document)} :
    skipMembers ((key, value) :: members) = .ok () ↔
      value.skip = .ok () ∧ skipMembers members = .ok () := by
  rw [skipMembers]
  cases value.skip <;> simp [bind, Except.bind]

-- The induction is on the fuel: each reader calls the others with less of it.
mutual

theorem taken_readValue (rounding : Binary64.Rounding) : ∀ (fuel : Nat) (text : List Char),
    (readValue rounding fuel text).1.skip = .ok () →
      Taken rounding text (readValue rounding fuel text)
  | 0, _, accepted => by cases accepted
  | fuel + 1, text, accepted => by
      rw [readValue] at accepted ⊢
      split at accepted
      · cases accepted
      · next begins => exact taken_wordDocument .null rfl begins accepted
      · next begins => exact taken_wordDocument (.bool true) rfl begins accepted
      · next begins => exact taken_wordDocument (.bool false) rfl begins accepted
      · next begins => exact taken_stringDocument begins accepted
      · next rest begins =>
          obtain ⟨inside, padded, written, read⟩ := taken_readItems rounding fuel true rest accepted
          refine .of_skipBlanks (.array inside padded) ?_ ?_
          · have opens := begins.trans (congrArg ('[' :: ·) written)
            simpa [Spelling.text] using opens
          · rw [document, ← read, ← (itemsPass_iff.mp accepted).2]
      · next rest begins =>
          obtain ⟨inside, padded, written, read⟩ := taken_readMembers rounding fuel true rest accepted
          refine .of_skipBlanks (.object inside padded) ?_ ?_
          · have opens := begins.trans (congrArg ('\x7b' :: ·) written)
            simpa [Spelling.text] using opens
          · rw [document, ← read, ← (membersPass_iff.mp accepted).2]
      · next c _ _ _ _ _ _ _ begins =>
          by_cases number : c = '-' ∨ c.isDigit = true
          · rw [if_pos number] at accepted ⊢
            exact taken_numberDocument begins accepted
          · rw [if_neg number] at accepted
            cases accepted

theorem taken_readItems (rounding : Binary64.Rounding) :
    ∀ (fuel : Nat) (first : Bool) (text : List Char), ItemsPass (readItems rounding fuel first text) →
      ItemsTaken rounding first text (readItems rounding fuel first text)
  | 0, _, _, accepted => by cases accepted
  | fuel + 1, first, text, accepted => by
      rw [readItems] at accepted ⊢
      split at accepted
      · cases accepted
      · next begins =>
          obtain ⟨before, split⟩ := exists_blanks text
          exact ⟨before, [], split.trans (congrArg (before.text ++ ·) begins), rfl⟩
      · next c rest _ begins =>
          cases first with
          | true =>
              rw [if_pos rfl] at accepted ⊢
              exact (taken_readItem rounding fuel _ accepted).items (begins ▸ .atOnce text)
          | false =>
              rw [if_neg Bool.false_ne_true] at accepted ⊢
              by_cases comma : c = ','
              · rw [if_pos comma] at accepted ⊢
                rw [comma] at begins
                split at accepted
                · cases accepted
                · cases accepted
                · exact (taken_readItem rounding fuel _ accepted).items (.overComma begins)
              · rw [if_neg comma] at accepted
                cases accepted

theorem taken_readItem (rounding : Binary64.Rounding) : ∀ (fuel : Nat) (text : List Char),
    ItemsPass (readItem rounding fuel text) → ItemTaken rounding text (readItem rounding fuel text)
  | 0, _, accepted => by cases accepted
  | fuel + 1, text, accepted => by
      obtain ⟨accepted, closed⟩ := itemsPass_iff.mp accepted
      obtain ⟨acceptedFirst, acceptedMore⟩ := skipItems_cons_eq_ok_iff.mp accepted
      obtain ⟨before, item, written, read⟩ := taken_readValue rounding fuel text acceptedFirst
      obtain ⟨after, items, writtenMore, readMore⟩ :=
        taken_readItems rounding fuel false _ (itemsPass_iff.mpr ⟨acceptedMore, closed⟩)
      refine ⟨before, item, after, items, ?_, ?_⟩
      · rw [writtenMore] at written
        exact written
      · exact congrArg₂ List.cons read readMore

theorem taken_readMembers (rounding : Binary64.Rounding) :
    ∀ (fuel : Nat) (first : Bool) (text : List Char),
      MembersPass (readMembers rounding fuel first text) →
        MembersTaken rounding first text (readMembers rounding fuel first text)
  | 0, _, _, accepted => by cases accepted
  | fuel + 1, first, text, accepted => by
      rw [readMembers] at accepted ⊢
      split at accepted
      · cases accepted
      · next begins =>
          obtain ⟨before, split⟩ := exists_blanks text
          exact ⟨before, [], split.trans (congrArg (before.text ++ ·) begins), rfl⟩
      · next c rest _ begins =>
          cases first with
          | true =>
              rw [if_pos rfl] at accepted ⊢
              exact (taken_readMember rounding fuel _ accepted).members (begins ▸ .atOnce text)
          | false =>
              rw [if_neg Bool.false_ne_true] at accepted ⊢
              by_cases comma : c = ','
              · rw [if_pos comma] at accepted ⊢
                rw [comma] at begins
                split at accepted
                · cases accepted
                · cases accepted
                · exact (taken_readMember rounding fuel _ accepted).members (.overComma begins)
              · rw [if_neg comma] at accepted
                cases accepted

theorem taken_readMember (rounding : Binary64.Rounding) : ∀ (fuel : Nat) (text : List Char),
    MembersPass (readMember rounding fuel text) →
      MemberTaken rounding text (readMember rounding fuel text)
  | 0, _, accepted => by cases accepted
  | fuel + 1, [], accepted => by cases accepted
  | fuel + 1, c :: text, accepted => by
      by_cases quote : c = '"'
      · subst quote
        rw [readMember] at accepted ⊢
        split at accepted
        · cases accepted
        · next lexed behind readKey =>
            obtain ⟨key, rfl, written⟩ := exists_pieces_of_lexemes readKey
            split at accepted
            · next rest colon =>
                obtain ⟨accepted, closed⟩ := membersPass_iff.mp accepted
                obtain ⟨acceptedFirst, acceptedMore⟩ := skipMembers_cons_eq_ok_iff.mp accepted
                obtain ⟨behindKey, split⟩ := exists_blanks behind
                obtain ⟨behindColon, value, writtenValue, read⟩ :=
                  taken_readValue rounding fuel rest acceptedFirst
                obtain ⟨after, members, writtenMore, readMore⟩ :=
                  taken_readMembers rounding fuel false _ (membersPass_iff.mpr ⟨acceptedMore, closed⟩)
                refine ⟨⟨key, behindKey, behindColon, value⟩, after, members, ?_, ?_⟩
                · rw [writtenMore] at writtenValue
                  rw [colon, writtenValue] at split
                  rw [written, split]
                  simp [quoted]
                · rw [stringOf_closed]
                  exact congrArg₂ List.cons (congrArg (Prod.mk (held key)) read) readMore
            · cases accepted
            · cases accepted
      · rw [readMember] at accepted
        · cases accepted
        · exact fun text same => quote (List.cons.inj same).1

end

end Spelling

/-- A text that holds one value without a fault of the grammar, and nothing else. -/
def Accepts (rounding : Binary64.Rounding) (text : String) : Prop :=
  (Document.ofText rounding text.toList).1.skip = .ok () ∧
    skipBlanks (Document.ofText rounding text.toList).2 = []

theorem skipBlanks_text (blanks : Blanks) : skipBlanks blanks.text = [] := by
  have skipped := blanks.skipBlanks_append []
  rwa [List.append_nil] at skipped

theorem Padded.accepts (rounding : Binary64.Rounding) (spelled : Padded Spelling) :
    Accepts rounding spelled.toString := by
  rw [Accepts, spelled.ofText_toString rounding]
  exact ⟨spelled.content.skip_document rounding, skipBlanks_text spelled.after⟩

/-- The texts that readers get through are those of the grammar. -/
theorem accepts_iff (rounding : Binary64.Rounding) {text : String} :
    Accepts rounding text ↔ ∃ spelled : Padded Spelling, spelled.toString = text := by
  constructor
  · rintro ⟨accepted, ends⟩
    obtain ⟨before, spelling, written, -⟩ := Spelling.taken_readValue rounding _ _ accepted
    obtain ⟨after, split⟩ := exists_blanks (Document.ofText rounding text.toList).2
    rw [ends, List.append_nil] at split
    refine ⟨⟨before, spelling, after⟩, ?_⟩
    rw [Padded.toString, ← split]
    exact (congrArg String.ofList written).symm.trans String.ofList_toList
  · rintro ⟨spelled, rfl⟩
    exact spelled.accepts rounding

end Grammar

open Grammar

variable {α : Type}

def Shape.ofTextBy (rounding : Binary64.Rounding) (shape : Shape α) (text : String) :
    Except Fault α := do
  let (document, rest) := Document.ofText rounding text.toList
  let value ← shape.read 128 document
  if Document.skipBlanks rest = [] then return value else throw .trailingText

theorem Shape.ofTextBy_stepwise (shape : Shape α) : shape.ofTextBy .stepwise = shape.ofText := rfl

theorem Shape.ofTextBy_eq_ok_iff {rounding : Binary64.Rounding} {shape : Shape α} {text : String}
    {value : α} : shape.ofTextBy rounding text = .ok value ↔
      shape.read 128 (Document.ofText rounding text.toList).1 = .ok value ∧
        skipBlanks (Document.ofText rounding text.toList).2 = [] := by
  unfold ofTextBy
  generalize Document.ofText rounding text.toList = parsed
  obtain ⟨document, rest⟩ := parsed
  constructor
  · intro read
    obtain ⟨found, readDocument, ends⟩ := bind_eq_ok read
    split at ends
    · next ended =>
        cases ends
        exact ⟨readDocument, ended⟩
    · cases ends
  · rintro ⟨readDocument, ended⟩
    simp only [readDocument, if_pos ended, bind, Except.bind]
    rfl

theorem Shape.ofTextBy_toString {rounding : Binary64.Rounding} {shape : Shape α}
    {spelled : Padded Spelling} {value : α} :
    shape.ofTextBy rounding spelled.toString = .ok value ↔
      shape.read 128 (spelled.content.document rounding) = .ok value := by
  rw [ofTextBy_eq_ok_iff, spelled.ofText_toString, skipBlanks_text]
  simp

theorem Shape.readItems_eq_ok_iff {shape : Shape α} {room : Nat} {items : List Document}
    {values : List α} : Shape.readItems shape room items = .ok values ↔
      List.Forall₂ (fun item value => shape.read room item = .ok value) items values := by
  induction items generalizing values with
  | nil =>
      rw [List.forall₂_nil_left_iff]
      exact ⟨fun read => (Except.ok.inj read).symm, fun none => by rw [none]; rfl⟩
  | cons item items inductionHypothesis =>
      rw [List.forall₂_cons_left_iff]
      constructor
      · intro read
        obtain ⟨value, readFirst, read⟩ := bind_eq_ok read
        obtain ⟨more, readMore, read⟩ := bind_eq_ok read
        exact ⟨value, more, readFirst, inductionHypothesis.mp readMore, (Except.ok.inj read).symm⟩
      · rintro ⟨value, more, readFirst, readMore, rfl⟩
        rw [readItems, readFirst, inductionHypothesis.mpr readMore]
        rfl

theorem Shape.read_list_eq_ok_iff {shape : Shape α} {room : Nat} {document : Document}
    {values : List α} : (Shape.list shape).read room document = .ok values ↔
      ∃ items, document = .array items .closed ∧
        List.Forall₂ (fun item value => shape.read (room - 1) item = .ok value) items values := by
  constructor
  · intro read
    cases document with
    | array items stop =>
        obtain ⟨found, readItems, read⟩ := bind_eq_ok read
        obtain ⟨_, closed, read⟩ := bind_eq_ok read
        cases read
        refine ⟨items, ?_, readItems_eq_ok_iff.mp readItems⟩
        cases stop with
        | closed => rfl
        | _ => cases closed
    | _ => cases read
  · rintro ⟨items, rfl, readItems⟩
    simp only [list, readItems_eq_ok_iff.mpr readItems]
    rfl

theorem Shape.read_spelledList_eq_ok_iff {shape : Shape α} {room : Nat} {rounding : Binary64.Rounding}
    {inside : Blanks} {items : List (Padded Spelling)} {values : List α} :
    (Shape.list shape).read room ((Spelling.array inside items).document rounding) = .ok values ↔
      List.Forall₂ (fun item value => shape.read (room - 1) item = .ok value)
        (Spelling.itemDocuments rounding items) values := by
  rw [Spelling.document, read_list_eq_ok_iff]
  constructor
  · rintro ⟨documents, same, read⟩
    cases same
    exact read
  · exact fun read => ⟨_, rfl, read⟩

/-- Whatever is read has no fault of the grammar. -/
def Shape.Accepting (shape : Shape α) : Prop :=
  ∀ room (document : Document) value, shape.read room document = .ok value → document.skip = .ok ()

theorem Shape.Accepting.list {shape : Shape α} (inner : shape.Accepting) :
    (Shape.list shape).Accepting := by
  intro room document values read
  obtain ⟨items, rfl, readItems⟩ := read_list_eq_ok_iff.mp read
  clear read
  suffices passed : skipItems items = .ok () by
    rw [skip, passed]
    rfl
  induction readItems with
  | nil => rfl
  | cons readFirst _ inductionHypothesis =>
      exact Spelling.skipItems_cons_eq_ok_iff.mpr ⟨inner _ _ _ readFirst, inductionHypothesis⟩

theorem Shape.Accepting.exists_spelled {shape : Shape α} (accepting : shape.Accepting)
    {rounding : Binary64.Rounding} {text : String} {value : α}
    (read : shape.ofTextBy rounding text = .ok value) :
    ∃ spelled : Padded Spelling, spelled.toString = text := by
  obtain ⟨readDocument, ends⟩ := ofTextBy_eq_ok_iff.mp read
  exact (accepts_iff rounding).mp ⟨accepting _ _ _ readDocument, ends⟩

end ReportCharts.Json
