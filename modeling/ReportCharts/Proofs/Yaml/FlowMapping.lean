import ReportCharts.Proofs.Yaml.Quoted
import ReportCharts.Yaml.Token

/-!
Tokens of a flow mapping that stands on one line without blanks, as JSON writes an object.

Inside the braces every quoted key is marked as a candidate, which the colon behind it settles; the
values behind colons are no candidates.
-/

namespace ReportCharts.Yaml

open Json.Value (escaped stringText)
open Overrides (isPrintable)

theorem isSpace_of_isAlphanum {c : Char} (letter : c.isAlphanum = true) : isSpace c = false := by
  have other := Text.ne_of_test letter
  simp [isSpace, isBlank, isBreak, other ' ' rfl, other '\t' rfl, other '\n' rfl, other '\r' rfl,
    other '\u0085' rfl, other '\u2028' rfl, other '\u2029' rfl]

theorem isSpace_of_isFlowIndicator {c : Char} (indicator : isFlowIndicator c = true) :
    isSpace c = false := by
  simp only [isFlowIndicator, Bool.or_eq_true, decide_eq_true_eq] at indicator
  rcases indicator with (((rfl | rfl) | rfl) | rfl) | rfl <;> rfl

theorem plainWord_append {word : List Char} (letters : ∀ c ∈ word, c.isAlphanum = true)
    {stop : Char} (stops : isFlowIndicator stop = true) (rest : List Char) :
    plainWord true (word ++ stop :: rest) = some word := by
  induction word with
  | nil =>
      have notColon := Text.ne_of_test stops ':' rfl
      have placed : misplacedColon true (stop :: rest) = false := by
        simp [misplacedColon, notColon]
      simp [plainWord, placed, endsPlain, stops]
  | cons c word inductionHypothesis =>
      have letter := letters c (by simp)
      have readMore := inductionHypothesis fun c mem => letters c (by simp [mem])
      have other := Text.ne_of_test letter
      have notStop : isFlowIndicator c = false := by
        simp [isFlowIndicator, other ',' rfl, other '[' rfl, other ']' rfl, other '\x7b' rfl,
          other '\x7d' rfl]
      simp [plainWord, misplacedColon, endsPlain, other ':' rfl, notStop,
        isSpace_of_isAlphanum letter, readMore]

/-- Characters that begin a token at once: neither blanks nor breaks, comments or marks. -/
def Solid (c : Char) : Prop := isSpace c = false ∧ c ≠ '#' ∧ c ≠ '\ufeff'

instance (c : Char) : Decidable (Solid c) :=
  inferInstanceAs (Decidable (isSpace c = false ∧ c ≠ '#' ∧ c ≠ '\ufeff'))

theorem solid_of_isAlphanum {c : Char} (letter : c.isAlphanum = true) : Solid c :=
  ⟨isSpace_of_isAlphanum letter, Text.ne_of_test letter '#' rfl,
    Text.ne_of_test letter '\ufeff' rfl⟩

/-- A name that can be a key: printable and not too long. -/
def IsKey (name : String) : Prop :=
  (∀ c ∈ name.toList, isPrintable c = true) ∧ octets (stringText name) ≤ 1024

instance (name : String) : Decidable (IsKey name) :=
  decidable_of_iff
    (name.toList.all isPrintable = true ∧ octets (stringText name) ≤ 1024) <| by
      rw [List.all_eq_true]
      rfl

theorem Cursor.index_le_advance (count : Nat) (cursor : Cursor) :
    cursor.index ≤ (cursor.advance count).index := Nat.le_add_right ..

namespace Scan

theorem skipGap_of_solid {scan : Scan} {c : Char} (solid : Solid c) {rest : List Char}
    (ahead : scan.cursor.rest = c :: rest) : scan.skipGap = scan := by
  obtain ⟨notSpace, notComment, notMark⟩ := solid
  obtain ⟨notBlank, notBreak⟩ := Bool.or_eq_false_iff.mp notSpace
  have still (tabs : Bool) :
      scan.cursor.skipWhile (fun c => c = ' ' || (tabs && c = '\t')) = scan.cursor := by
    simp only [isBlank, Bool.or_eq_false_iff, decide_eq_false_iff_not] at notBlank
    simp [Cursor.skipWhile, Cursor.span, ahead, notBlank]
  simp [skipGap, skipLines, Cursor.startsWith, Cursor.atBreak, Cursor.head?, ahead, notComment,
    notMark, notBreak, still]

/-- No candidate before a place has to be a key. -/
def Lenient (candidate : Option Candidate) : Prop := ∀ current ∈ candidate, current.required = false

theorem Lenient.dismiss {candidate : Option Candidate} (lenient : Lenient candidate) :
    Candidate.dismiss? candidate = some () := by
  cases candidate with
  | none => rfl
  | some current => simp [Candidate.dismiss?, lenient current rfl]

/-- The candidate outside of all flow collections is given up when it is stale. -/
def lapse (scan : Scan) : Scan :=
  { scan with block := scan.block.filter fun current => !current.isStale scan.cursor }

theorem Lenient.lapse {scan : Scan} (lenient : Lenient scan.block) : Lenient scan.lapse.block := by
  intro current mem
  exact lenient current (Option.mem_filter_iff.mp mem).1

theorem items_end {scan : Scan} (done : scan.cursor.rest = []) (indents : scan.indents = [])
    (outside : scan.flow = []) (lenient : Lenient scan.block) (fuel : Nat) :
    scan.items (fuel + 1) = some [] := by
  have still (test : Char → Bool) : scan.cursor.skipWhile test = scan.cursor := by
    simp [Cursor.skipWhile, Cursor.span, done]
  have gap : scan.skipGap = scan := by
    simp [skipGap, skipLines, Cursor.startsWith, Cursor.atBreak, Cursor.head?, done, still]
  have expired : scan.expire = some scan.lapse := by
    simp [expire, lenient.dismiss, outside, lapse]
  have closed (column : Option Nat) : scan.lapse.close column = ([], scan.lapse) := by
    simp [close, inFlow, lapse, indents, outside]
  have last : scan.lapse.cursor.head? = none := by simp [Cursor.head?, lapse, done]
  have optional : Candidate.dismiss? scan.lapse.candidate = some () := by
    have block : scan.lapse.candidate = scan.lapse.block := by simp [candidate, lapse, outside]
    rw [block]
    exact lenient.lapse.dismiss
  simp [items, gap, expired, closed, last, optional]

/-- After so many tokens the items found are these, and reading goes on from another place. -/
def Emits (scan : Scan) (count : Nat) (found : List Item) (after : Scan) : Prop :=
  ∀ fuel, items (fuel + count) scan = (items fuel after).map (found ++ ·)

theorem Emits.taken {scan next after : Scan} {c : Char} {found : List Item}
    (gap : scan.skipGap = scan) (expired : scan.expire = some next)
    (closed : next.close (some next.cursor.column) = ([], next))
    (first : next.cursor.head? = some c) (taken : next.takeToken c = some (found, after)) :
    scan.Emits 1 found after := by
  intro fuel
  simp only [items, gap, expired, closed, first, taken, bind, Option.bind, List.nil_append]
  cases items fuel after <;> rfl

theorem Emits.trans {scan next after : Scan} {first second : Nat} {found more : List Item}
    (front : scan.Emits first found next) (back : next.Emits second more after) :
    scan.Emits (second + first) (found ++ more) after := by
  intro fuel
  rw [← Nat.add_assoc, front, back, Option.map_map]
  congr 1
  funext items
  simp

/--
Inside the braces of one flow mapping, behind the first character of the text.

What stood before the mapping may still be a candidate, but nothing requires it to be a key.
-/
structure Inside (scan : Scan) (text : List Char) (candidate : Option Candidate)
    (keyAllowed : Bool) : Prop where
  rest : scan.cursor.rest = text
  column : 0 < scan.cursor.column
  indents : scan.indents = []
  lenient : Lenient scan.block
  flow : scan.flow = [candidate]
  allowed : scan.keyAllowed = keyAllowed

def behind (width : Nat) (candidate : Option Candidate) (keyAllowed : Bool) (scan : Scan) : Scan :=
  { scan.moved width with flow := [candidate], keyAllowed := keyAllowed }

namespace Inside

variable {scan : Scan} {c : Char} {front text : List Char}
  {candidate candidateAfter : Option Candidate} {keyAllowed allowedAfter : Bool}

theorem inFlow (inside : Inside scan text candidate keyAllowed) : scan.inFlow = true := by
  simp [Scan.inFlow, inside.flow]

theorem noMarker (inside : Inside scan text candidate keyAllowed) (marker : List Char) :
    scan.cursor.atMarker marker = false := by
  have column : scan.cursor.column ≠ 0 := Nat.ne_of_gt inside.column
  simp [Cursor.atMarker, column]

theorem behind (inside : Inside scan (front ++ text) candidate keyAllowed) :
    Inside (scan.behind front.length candidateAfter allowedAfter) text candidateAfter
      allowedAfter := by
  refine ⟨?_, Nat.lt_add_right _ inside.column, inside.indents, inside.lenient, rfl, rfl⟩
  change (scan.cursor.advance front.length).rest = text
  rw [Cursor.rest_advance, inside.rest, List.drop_left]

theorem lapse (inside : Inside scan text candidate keyAllowed) :
    Inside scan.lapse text candidate keyAllowed :=
  ⟨inside.rest, inside.column, inside.indents, inside.lenient.lapse, inside.flow, inside.allowed⟩

/-- Before a token nothing happens but that the candidate outside of the mapping may lapse. -/
theorem emits_first (inside : Inside scan (c :: text) candidate keyAllowed) (solid : Solid c)
    (fresh : ∀ current ∈ candidate, current.isStale scan.cursor = false) {found : List Item}
    {after : Scan} (taken : scan.lapse.takeToken c = some (found, after)) :
    scan.Emits 1 found after := by
  have keep : candidate.filter (fun current => !current.isStale scan.cursor) = candidate := by
    cases candidate with
    | none => rfl
    | some current => simp [fresh current rfl]
  have expired : scan.expire = some scan.lapse := by
    simp [expire, inside.lenient.dismiss, inside.flow, keep, Scan.lapse]
  have closed : scan.lapse.close (some scan.lapse.cursor.column) = ([], scan.lapse) := by
    simp [close, inside.lapse.inFlow]
  have first : scan.lapse.cursor.head? = some c := by simp [Cursor.head?, inside.lapse.rest]
  exact .taken (skipGap_of_solid solid inside.rest) expired closed first taken

theorem emits_one (front : List Char)
    (inside : Inside scan (front ++ text) candidate keyAllowed)
    (first : front.head? = some c) (solid : Solid c)
    (fresh : ∀ current ∈ candidate, current.isStale scan.cursor = false) {found : List Item}
    (taken : ∀ next : Scan, next.cursor = scan.cursor →
      Inside next (front ++ text) candidate keyAllowed →
      next.takeToken c = some (found, next.behind front.length candidateAfter allowedAfter)) :
    ∃ after, scan.Emits 1 found after ∧ Inside after text candidateAfter allowedAfter ∧
      after.cursor = scan.cursor.advance front.length := by
  obtain ⟨more, rfl⟩ := List.head?_eq_some_iff.mp first
  exact ⟨_, emits_first inside solid fresh (taken scan.lapse rfl inside.lapse),
    inside.lapse.behind, rfl⟩

theorem takeToken_closing (inside : Inside scan ('\x7d' :: text) none keyAllowed) :
    scan.takeToken '\x7d' = some ([.token .flowMappingEnd],
      { scan.moved 1 with flow := [], keyAllowed := false }) := by
  simp [takeToken, inside.noMarker, takeFlowEnd, dismiss, Scan.candidate, inside.flow,
    Candidate.dismiss?, setCandidate, take, Scan.moved]

theorem takeToken_comma (inside : Inside scan (',' :: text) none keyAllowed) :
    scan.takeToken ',' = some ([.token .flowEntry], scan.behind 1 none true) := by
  simp [takeToken, inside.noMarker, takeFlowEntry, dismiss, Scan.candidate, inside.flow,
    Candidate.dismiss?, setCandidate, take, Scan.moved, Scan.behind]

theorem takeToken_colon {current : Candidate}
    (inside : Inside scan (':' :: text) (some current) keyAllowed) :
    scan.takeToken ':' =
      some ([.keyAt current.place false, .token .value], scan.behind 1 none false) := by
  have closed (column : Nat) : scan.opens column = false := by simp [opens, inside.inFlow]
  simp [takeToken, inside.noMarker, inside.inFlow, takeValue, Scan.candidate, inside.flow, closed,
    openAt, setCandidate, take, Scan.moved, Scan.behind]

theorem propose_key (inside : Inside scan text none true) {cursor : Cursor}
    (same : scan.cursor = cursor) : scan.propose = some ([.mark cursor.index],
      { scan with flow := [some ⟨cursor.index, cursor.line, cursor.column, false⟩] }) := by
  subst same
  simp [propose, inside.allowed, inside.inFlow, Scan.candidate, inside.flow, Candidate.dismiss?,
    setCandidate]

theorem propose_value (inside : Inside scan text none false) :
    scan.propose = some ([], { scan with flow := [none] }) := by
  obtain ⟨cursor, indents, block, flow, allowed⟩ := scan
  obtain rfl : flow = [none] := inside.flow
  obtain rfl : allowed = false := inside.allowed
  rfl

theorem takeToken_stringText {content : String}
    (inside : Inside scan (stringText content ++ text) candidate keyAllowed)
    (printable : ∀ c ∈ content.toList, isPrintable c = true) {marks : List Item}
    (proposed : scan.propose = some (marks, { scan with flow := [candidateAfter] })) :
    scan.takeToken '"' = some (marks ++ [.token (.scalar .doubleQuoted content)],
      scan.behind (stringText content).length candidateAfter false) := by
  have ahead : (scan.cursor.advance 1).rest = content.toList.flatMap escaped ++ '"' :: text := by
    simp [inside.rest, stringText]
  have enough : content.toList.length < (scan.cursor.advance 1).rest.length + 1 := by
    have inner := length_le_length_flatMap escaped_ne_nil content.toList
    rw [ahead, List.length_append]
    omega
  have read := readQuoted_escaped printable (Nat.succ_pos _) ahead enough
  have width : (stringText content).length =
      1 + ((content.toList.flatMap escaped).length + 1) := by
    simp [stringText]
    omega
  rw [Cursor.advance_advance, ← width] at read
  have quoted : scan.takeToken '"' = scan.takeQuoted .doubleQuoted := by
    simp [takeToken, inside.noMarker]
  rw [quoted, takeQuoted, proposed]
  simp [read, takeScalar, Scan.behind, Scan.moved, -Cursor.rest_advance]

theorem takeToken_word {word : List Char} (letters : ∀ c ∈ word, c.isAlphanum = true)
    (first : word.head? = some c) {stop : Char} (stops : isFlowIndicator stop = true)
    (inside : Inside scan (word ++ stop :: text) none false) :
    scan.takeToken c = some ([.token (.scalar .plain (String.ofList word))],
      scan.behind word.length none false) := by
  obtain ⟨more, rfl⟩ := List.head?_eq_some_iff.mp first
  have letter : c.isAlphanum = true := letters c (by simp)
  have other := Text.ne_of_test letter
  have plain : scan.takeToken c = scan.takePlain := by
    unfold takeToken
    simp only [inside.noMarker, other '%' rfl, and_false, Bool.false_eq_true, if_false]
    split
    all_goals first
      | exact absurd letter (by decide)
      | simp [isSpace_of_isAlphanum letter]
  have marker : scan.cursor.atDocumentMarker = false := by
    simp [Cursor.atDocumentMarker, inside.noMarker]
  have comment : scan.cursor.startsWith '#' = false := by
    simp [Cursor.startsWith, Cursor.head?, inside.rest, other '#' rfl]
  have ends : (scan.cursor.advance (c :: more).length).spaceAt 0 = false := by
    have solid := isSpace_of_isFlowIndicator stops
    simp [Cursor.spaceAt, inside.rest, solid]
  have read (least : Nat) : readPlain true least (scan.cursor.rest.length + 1) .none scan.cursor =
      some ⟨c :: more, false, scan.cursor.advance (c :: more).length⟩ := by
    simp only [readPlain, marker, comment, Bool.or_self, Bool.false_eq_true, if_false, inside.rest,
      plainWord_append letters stops, ends, Bool.false_and]
    rfl
  rw [plain, takePlain, inside.propose_value]
  have flowing : Scan.inFlow { scan with flow := [none] } = true := rfl
  simp only [bind, Option.bind, flowing, read]
  rfl

theorem emits_key {name : String} (key : IsKey name)
    (inside : Inside scan (stringText name ++ ':' :: text) none true) :
    ∃ after, scan.Emits 2 [.mark scan.cursor.index, .token (.scalar .doubleQuoted name),
        .keyAt scan.cursor.index false, .token .value] after ∧
      Inside after text none false ∧ scan.cursor.index ≤ after.cursor.index := by
  obtain ⟨next, emitsName, insideNext, movedName⟩ := inside.emits_one _ rfl (by decide)
    (by simp) fun next same insideNext =>
      insideNext.takeToken_stringText key.1 (insideNext.propose_key same)
  have fresh : ∀ current ∈ some (Candidate.mk scan.cursor.index scan.cursor.line
      scan.cursor.column false), current.isStale next.cursor = false := by
    rintro current ⟨⟩
    have near := key.2
    simp [Candidate.isStale, movedName, Cursor.advance, inside.rest]
    omega
  obtain ⟨after, emitsColon, insideAfter, movedColon⟩ := insideNext.emits_one [':'] rfl (by decide)
    fresh fun next _ insideNext => insideNext.takeToken_colon
  refine ⟨after, emitsName.trans emitsColon, insideAfter, ?_⟩
  rw [movedColon, movedName, Cursor.advance_advance]
  exact Cursor.index_le_advance _ _

theorem emits_next (front : List Char) (inside : Inside scan (front ++ text) none keyAllowed)
    (first : front.head? = some c) (solid : Solid c) {found : List Item}
    (taken : ∀ next : Scan, Inside next (front ++ text) none keyAllowed →
      next.takeToken c = some (found, next.behind front.length none allowedAfter)) :
    ∃ after, scan.Emits 1 found after ∧ Inside after text none allowedAfter ∧
      scan.cursor.index ≤ after.cursor.index := by
  obtain ⟨after, emits, insideAfter, moved⟩ :=
    inside.emits_one front first solid (by simp) fun next _ insideNext => taken next insideNext
  refine ⟨after, emits, insideAfter, ?_⟩
  rw [moved]
  exact Cursor.index_le_advance _ _

theorem emits_text {content : String} (printable : ∀ c ∈ content.toList, isPrintable c = true)
    (inside : Inside scan (stringText content ++ text) none false) :
    ∃ after, scan.Emits 1 [.token (.scalar .doubleQuoted content)] after ∧
      Inside after text none false ∧ scan.cursor.index ≤ after.cursor.index :=
  inside.emits_next _ rfl (by decide) fun _ insideNext =>
    insideNext.takeToken_stringText printable insideNext.propose_value

theorem emits_word {word : List Char} (letters : ∀ c ∈ word, c.isAlphanum = true)
    (nonempty : word ≠ []) {stop : Char} (stops : isFlowIndicator stop = true)
    (inside : Inside scan (word ++ stop :: text) none false) :
    ∃ after, scan.Emits 1 [.token (.scalar .plain (String.ofList word))] after ∧
      Inside after (stop :: text) none false ∧ scan.cursor.index ≤ after.cursor.index := by
  obtain ⟨c, more, rfl⟩ := List.exists_cons_of_ne_nil nonempty
  have solid := solid_of_isAlphanum (letters c (by simp))
  exact inside.emits_next _ rfl solid fun _ insideNext =>
    insideNext.takeToken_word letters rfl stops

theorem emits_comma (inside : Inside scan (',' :: text) none keyAllowed) :
    ∃ after, scan.Emits 1 [.token .flowEntry] after ∧ Inside after text none true ∧
      scan.cursor.index ≤ after.cursor.index :=
  emits_next [','] inside rfl (by decide) fun _ insideNext => insideNext.takeToken_comma

theorem items_closing (inside : Inside scan ['\x7d'] none keyAllowed) (fuel : Nat) :
    scan.items (fuel + 2) = some [.token .flowMappingEnd] := by
  have emits := inside.emits_first (by decide) (by simp) inside.lapse.takeToken_closing
  have after : Scan.items (fuel + 1)
      { scan.lapse.moved 1 with flow := [], keyAllowed := false } = some [] := by
    apply items_end
    · simp [Scan.moved, inside.lapse.rest]
    · exact inside.indents
    · rfl
    · exact inside.lapse.lenient
  rw [emits (fuel + 1), after]
  rfl

end Inside

theorem emits_opening (text : List Char) {scan : Scan}
    (start : scan = ⟨.start ('\x7b' :: text), [], none, [], true⟩) :
    ∃ after, scan.Emits 1 [.mark 0, .token .flowMapping] after ∧ Inside after text none true ∧
      after.cursor.index = 1 := by
  obtain ⟨after, isAfter⟩ : ∃ after : Scan, after = ⟨(Cursor.start ('\x7b' :: text)).advance 1, [],
    some ⟨0, 0, 0, false⟩, [none], true⟩ := ⟨_, rfl⟩
  have inside : Inside after text none true := by
    subst isAfter
    refine ⟨rfl, Nat.one_pos, rfl, ?_, rfl, rfl⟩
    rintro current ⟨⟩
    rfl
  have gap : scan.skipGap = scan := by
    apply skipGap_of_solid (by decide : Solid '\x7b')
    rw [start]
    rfl
  have expired : scan.expire = some scan := by
    rw [start]
    rfl
  have closed : scan.close (some scan.cursor.column) = ([], scan) := by
    rw [start]
    rfl
  have first : scan.cursor.head? = some '\x7b' := by
    rw [start]
    rfl
  have taken : scan.takeToken '\x7b' = some ([.mark 0, .token .flowMapping], after) := by
    rw [start, isAfter]
    rfl
  have index : after.cursor.index = 1 := by
    rw [isAfter]
    rfl
  exact ⟨after, .taken gap expired closed first taken, inside, index⟩

end Scan

end ReportCharts.Yaml
