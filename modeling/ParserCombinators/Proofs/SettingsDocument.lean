import ParserCombinators.Settings.Report
import ParserCombinators.Proofs.SettingsGrammar
/-!
Reading a written settings document. A document is written as white space, then its settings,
each as written on its line (`WrittenSetting`) and followed by the newline that ends the line and
the white space after it: blank lines and the indentation of the next setting. The last setting
may end the document with no newline after it.

Each round of `entries` reads one line: the setting, then the white space up to the next name
(`entries_parse_line`). Over lines whose names are new and whose numerals are within the digit
limit the rounds go on (`entries_parse_linesText_append`), so a document whose names are distinct
reads as its settings in order, to the end of the input, and a document with a name set twice
fails at the first setting whose name was set before, just after that setting, with the message
that names it (`read_written_document`). A numeral of more digits than the limit allows stops the
reading with the fault of the limit instead (`read_written_document_of_not_fitsDigitLimit`), so a
document that sets a number of 4301 digits does not read (`read_number_beyond_digit_limit`).
-/

namespace ParserCombinators

theorem Parser.peek_parse (st : State) : Parser.peek.parse st = .ok st.input st := rfl

namespace Settings

open ParserCombinators.Parser

/-- A line of a written document: a setting, then what ends it, which is nothing at the end of the
document, or a newline and white space up to the next setting. -/
structure WrittenLine where
  setting : WrittenSetting
  /-- The newline that ends the line and the white space after it, or nothing. -/
  ending : Text
  isSpace_ending : ending.all Text.isSpace = true
  newline_ending : ∀ c ∈ ending.head?, c = '\n'

def WrittenLine.text (l : WrittenLine) : Text := l.setting.text ++ l.ending

def linesText (lines : List WrittenLine) : Text := (lines.map WrittenLine.text).flatten

def linesDocument (lines : List WrittenLine) : Document :=
  lines.map fun l => (l.setting.name, l.setting.value)

structure WrittenDocument where
  /-- The white space before the first setting. -/
  lead : Text
  lines : List WrittenLine
  isSpace_lead : lead.all Text.isSpace = true

def WrittenDocument.text (d : WrittenDocument) : Text := d.lead ++ linesText d.lines

@[simp] theorem linesText_nil : linesText [] = [] := rfl

@[simp] theorem linesText_cons (l : WrittenLine) (lines : List WrittenLine) :
    linesText (l :: lines) = l.text ++ linesText lines := rfl

theorem linesText_append (before after : List WrittenLine) :
    linesText (before ++ after) = linesText before ++ linesText after := by
  simp [linesText]

@[simp] theorem linesDocument_nil : linesDocument [] = [] := rfl

@[simp] theorem linesDocument_cons (l : WrittenLine) (lines : List WrittenLine) :
    linesDocument (l :: lines) = (l.setting.name, l.setting.value) :: linesDocument lines := rfl

/-! ### Where a line ends -/

theorem head?_setting_text_append (s : WrittenSetting) (t : Text) :
    ∀ c ∈ (s.text ++ t).head?, isNameStart c = true := by
  have hname := s.isName_name
  intro c hc
  cases hname_eq : s.name with
  | nil => simp [hname_eq, isName] at hname
  | cons d ds =>
    rw [hname_eq, isName, Bool.and_eq_true] at hname
    simp only [WrittenSetting.text, hname_eq, List.cons_append, List.head?_cons, Option.mem_def,
      Option.some.injEq] at hc
    rw [← hc]
    exact hname.1

theorem head?_linesText_append (lines : List WrittenLine) {t : Text}
    (ht : ∀ c ∈ t.head?, isNameStart c = true) :
    ∀ c ∈ (linesText lines ++ t).head?, isNameStart c = true := by
  cases lines with
  | nil => simpa using ht
  | cons l ls =>
    simp only [linesText_cons, WrittenLine.text, List.append_assoc]
    exact head?_setting_text_append l.setting _

theorem head?_linesText (lines : List WrittenLine) :
    ∀ c ∈ (linesText lines).head?, isNameStart c = true := by
  simpa using head?_linesText_append lines (t := []) (by simp)

/-- After the value of a line's setting and its spaces and tabs comes a newline, the next name or
the end of the input, none of which extends the setting. -/
theorem head?_ending_append (l : WrittenLine) {t : Text}
    (ht : ∀ c ∈ t.head?, isNameStart c = true) :
    ∀ c ∈ (l.ending ++ t).head?, isBlank c = false ∧ Text.isDigit c = false := by
  intro c hc
  cases hend : l.ending with
  | nil =>
    rw [hend, List.nil_append] at hc
    exact ⟨(stops_of_isNameStart (ht c hc)).1, (stops_of_isNameStart (ht c hc)).2.1⟩
  | cons d ds =>
    simp only [hend, List.cons_append, List.head?_cons, Option.mem_def, Option.some.injEq] at hc
    have hnewline : d = '\n' := l.newline_ending d (by simp [hend])
    rw [← hc, hnewline]
    decide

theorem blankLines_parse_ending (l : WrittenLine) {t : Text}
    (ht : ∀ c ∈ t.head?, isNameStart c = true) (pos : SourcePos) :
    blankLines.parse ⟨l.ending ++ t, pos⟩ = .ok l.ending ⟨t, pos.advance l.ending⟩ :=
  span_parse_append Text.isSpace "blank lines" (List.all_eq_true.mp l.isSpace_ending)
    (fun c hc => (stops_of_isNameStart (ht c hc)).2.2) pos

/-! ### One round, then every round -/

theorem any_fst_beq_iff (doc : Document) (name : Text) :
    doc.any (·.1 == name) = true ↔ name ∈ doc.map Prod.fst := by
  simp [List.any_eq_true]

theorem entries_parse_nil (rounds : Nat) (doc : Document) (pos : SourcePos) :
    (entries rounds doc).parse ⟨[], pos⟩ = .ok doc ⟨[], pos⟩ := by
  cases rounds <;> rfl

theorem entries_succ_parse {input : Text} (hne : input ≠ []) (pos : SourcePos) (rounds : Nat)
    (doc : Document) :
    (entries (rounds + 1) doc).parse ⟨input, pos⟩ =
      (setting.flatMap fun e =>
        if doc.any (·.1 == e.name) then Parser.fail (duplicateMessage e.name)
        else blankLines.flatMap fun _ => entries rounds (doc ++ [(e.name, e.value)])).parse
        ⟨input, pos⟩ := by
  have hempty : input.isEmpty = false := List.isEmpty_eq_false_iff.mpr hne
  rw [entries, flatMap_parse_of_ok (peek_parse _)]
  simp only [hempty, Bool.false_eq_true, if_false]

/-- A round on input that is left reads a setting. A setting whose name was read before fails
where the setting ends; a new one is added to the settings, and the round reads the white space
after it and goes on. -/
theorem entries_parse_of_setting_ok {input : Text} (hne : input ≠ []) {pos : SourcePos}
    {e : Entry} {rest : State} (hs : setting.parse ⟨input, pos⟩ = .ok e rest) (rounds : Nat)
    (doc : Document) :
    (entries (rounds + 1) doc).parse ⟨input, pos⟩ =
      if e.name ∈ doc.map Prod.fst then .failed ⟨duplicateMessage e.name, [], rest.pos⟩
      else (blankLines.flatMap fun _ => entries rounds (doc ++ [(e.name, e.value)])).parse rest := by
  rw [entries_succ_parse hne, flatMap_parse_of_ok hs]
  by_cases hdup : e.name ∈ doc.map Prod.fst
  · simp only [(any_fst_beq_iff doc _).mpr hdup, if_true, hdup]
    rfl
  · have hany : doc.any (·.1 == e.name) = false :=
      Bool.eq_false_iff.mpr fun h => hdup ((any_fst_beq_iff doc _).mp h)
    simp only [hany, Bool.false_eq_true, if_false, hdup]

theorem entries_parse_of_setting_raised {input : Text} (hne : input ≠ []) {pos : SourcePos}
    {x : Fault} (hs : setting.parse ⟨input, pos⟩ = .raised x) (rounds : Nat) (doc : Document) :
    (entries (rounds + 1) doc).parse ⟨input, pos⟩ = .raised x := by
  rw [entries_succ_parse hne, flatMap_parse_of_raised hs]

theorem WrittenLine.text_append_ne_nil (l : WrittenLine) (t : Text) : l.text ++ t ≠ [] := by
  have hname := l.setting.isName_name
  cases hname_eq : l.setting.name with
  | nil => simp [hname_eq, isName] at hname
  | cons c cs => simp [WrittenLine.text, WrittenSetting.text, hname_eq]

theorem WrittenLine.text_append (l : WrittenLine) (t : Text) :
    l.text ++ t = l.setting.text ++ (l.ending ++ t) := by
  rw [WrittenLine.text, List.append_assoc]

/-- One round reads one line: its setting, then, when the name is new, the white space up to the
next name; a name read before fails just after the setting. -/
theorem entries_parse_line (l : WrittenLine) (hfit : l.setting.value.fitsDigitLimit = true)
    {t : Text} (ht : ∀ c ∈ t.head?, isNameStart c = true) (rounds : Nat) (doc : Document)
    (pos : SourcePos) :
    (entries (rounds + 1) doc).parse ⟨l.text ++ t, pos⟩ =
      if l.setting.name ∈ doc.map Prod.fst then
        .failed ⟨duplicateMessage l.setting.name, [], pos.advance l.setting.text⟩
      else
        (entries rounds (doc ++ [(l.setting.name, l.setting.value)])).parse
          ⟨t, pos.advance l.text⟩ := by
  have hsetting := setting_parse_written l.setting hfit (head?_ending_append l ht) pos
  rw [entries_parse_of_setting_ok (l.text_append_ne_nil t) (l.text_append t ▸ hsetting)]
  split
  · rfl
  · rw [flatMap_parse_of_ok (blankLines_parse_ending l ht _), WrittenLine.text,
      SourcePos.advance_append]

theorem entries_parse_line_of_not_fitsDigitLimit (l : WrittenLine)
    (hlong : l.setting.value.fitsDigitLimit = false) {t : Text}
    (ht : ∀ c ∈ t.head?, isNameStart c = true) (rounds : Nat) (doc : Document) (pos : SourcePos) :
    (entries (rounds + 1) doc).parse ⟨l.text ++ t, pos⟩ =
      .raised (.tooManyDigits l.setting.value.written.length) := by
  have hsetting := setting_parse_written_of_not_fitsDigitLimit l.setting hlong
    (head?_ending_append l ht) pos
  exact entries_parse_of_setting_raised (l.text_append_ne_nil t) (l.text_append t ▸ hsetting)
    rounds doc

/-- Rounds over lines whose numerals are within the digit limit and whose names are new, and new
to the settings read before, read them all and go on after them, one round a line. The induction
is on the lines; the settings read so far grow by one line a round, and the names of those and of
the lines still to read stay distinct. -/
theorem entries_parse_linesText_append (before : List WrittenLine)
    (hfit : ∀ l ∈ before, l.setting.value.fitsDigitLimit = true) (doc : Document)
    (hnew : ((doc ++ linesDocument before).map Prod.fst).Nodup) {t : Text}
    (ht : ∀ c ∈ t.head?, isNameStart c = true) (rounds : Nat) (pos : SourcePos) :
    (entries (rounds + before.length) doc).parse ⟨linesText before ++ t, pos⟩ =
      (entries rounds (doc ++ linesDocument before)).parse
        ⟨t, pos.advance (linesText before)⟩ := by
  induction before generalizing doc pos with
  | nil => simp
  | cons l ls ih =>
    have hfresh : l.setting.name ∉ doc.map Prod.fst := by
      simp only [linesDocument_cons, List.map_append, List.map_cons] at hnew
      exact fun h => (List.nodup_append.mp hnew).2.2 _ h _ List.mem_cons_self rfl
    have hnew' : ((doc ++ [(l.setting.name, l.setting.value)] ++ linesDocument ls).map
        Prod.fst).Nodup := by
      simpa using hnew
    rw [List.length_cons, ← Nat.add_assoc, linesText_cons, List.append_assoc,
      entries_parse_line l (hfit l List.mem_cons_self) (head?_linesText_append ls ht),
      if_neg hfresh,
      ih (fun l' hl' => hfit l' (List.mem_cons_of_mem l hl')) (doc ++ [_]) hnew',
      SourcePos.advance_append]
    simp

/-- A document is read from the end of its white space by one round more than the text of its
lines has characters. -/
theorem read_eq_entries (d : WrittenDocument) :
    read d.text =
      (entries ((linesText d.lines).length + 1) []).parse
        ⟨linesText d.lines, SourcePos.start.advance d.lead⟩ := by
  have hlead : blankLines.parse ⟨d.lead ++ linesText d.lines, SourcePos.start⟩ =
      .ok d.lead ⟨linesText d.lines, SourcePos.start.advance d.lead⟩ :=
    span_parse_append Text.isSpace "blank lines" (List.all_eq_true.mp d.isSpace_lead)
    (fun c hc => (stops_of_isNameStart (head?_linesText d.lines c hc)).2.2)
    SourcePos.start
  have hparse : document.parse (State.initial d.text) =
      (entries ((linesText d.lines).length + 1) []).parse
        ⟨linesText d.lines, SourcePos.start.advance d.lead⟩ := by
    rw [document, named_parse, State.initial, WrittenDocument.text,
      flatMap_parse_of_ok hlead, flatMap_parse_of_ok (peek_parse _)]
  rw [read, run, hparse]
  -- the document's override is cleared by its `flatMap`, so the reply is returned as it is
  cases (entries ((linesText d.lines).length + 1) []).parse
    ⟨linesText d.lines, SourcePos.start.advance d.lead⟩ with
  | ok v rest => rfl
  | failed e => exact adjust_failed_of_none _ (by simp [document]) e
  | raised x => rfl

/-- The rounds a document is read with are enough for the lines before a setting and that
setting. -/
theorem length_le_linesText_length (lines : List WrittenLine) :
    lines.length ≤ (linesText lines).length := by
  induction lines with
  | nil => exact Nat.le_refl _
  | cons l ls ih =>
    have hpos : 0 < l.text.length := by
      simpa using List.length_pos_iff.mpr (l.text_append_ne_nil [])
    simp only [List.length_cons, linesText_cons, List.length_append]
    omega

/-- Reading a document comes, after its first lines, to the lines after them with a round more
than they number, when the first lines are within the digit limit and their names are
distinct. -/
theorem read_eq_entries_after (d : WrittenDocument) (before rest : List WrittenLine)
    (hlines : d.lines = before ++ rest)
    (hfit : ∀ l ∈ before, l.setting.value.fitsDigitLimit = true)
    (hnew : ((linesDocument before).map Prod.fst).Nodup) :
    ∃ rounds, rest.length < rounds ∧
      read d.text = (entries rounds (linesDocument before)).parse
        ⟨linesText rest, SourcePos.start.advance (d.lead ++ linesText before)⟩ := by
  have hlen := length_le_linesText_length d.lines
  have hcount : d.lines.length = before.length + rest.length := by simp [hlines]
  obtain ⟨extra, hextra⟩ : ∃ extra, (linesText d.lines).length + 1 = extra + before.length :=
    ⟨(linesText d.lines).length + 1 - before.length, by omega⟩
  refine ⟨extra, by omega, ?_⟩
  have hrun := entries_parse_linesText_append before hfit [] (by simpa using hnew)
    (head?_linesText rest) extra (SourcePos.start.advance d.lead)
  rw [read_eq_entries, hextra, hlines, linesText_append, hrun, SourcePos.advance_append,
    List.nil_append]

/-- Reading a written document whose numerals are within the digit limit. When its names are
distinct it reads as its settings in order, and the whole input is read. When a name is set twice
it fails at the first setting whose name was set before, just after that setting's value and the
spaces and tabs after it, with the message `duplicate setting` and the name between apostrophes,
and no accepted alternatives. -/
theorem read_written_document (d : WrittenDocument)
    (hfit : ∀ l ∈ d.lines, l.setting.value.fitsDigitLimit = true) :
    (((linesDocument d.lines).map Prod.fst).Nodup →
      read d.text = .ok (linesDocument d.lines) ⟨[], SourcePos.start.advance d.text⟩) ∧
    ∀ before l after, d.lines = before ++ l :: after →
      ((linesDocument before).map Prod.fst).Nodup →
      l.setting.name ∈ (linesDocument before).map Prod.fst →
      read d.text = .failed ⟨"duplicate setting '" ++ l.setting.name ++ "'", [],
        SourcePos.start.advance (d.lead ++ linesText before ++ l.setting.text)⟩ := by
  constructor
  · intro hnew
    obtain ⟨rounds, -, hread⟩ :=
      read_eq_entries_after d d.lines [] (List.append_nil _).symm hfit hnew
    rw [hread, linesText_nil, entries_parse_nil]
    rfl
  · intro before l after hlines hnew hdup
    have hfitBefore : ∀ l' ∈ before, l'.setting.value.fitsDigitLimit = true :=
      fun l' hl' => hfit l' (by rw [hlines]; exact List.mem_append_left _ hl')
    have hfitLine : l.setting.value.fitsDigitLimit = true :=
      hfit l (by rw [hlines]; exact List.mem_append_right _ List.mem_cons_self)
    obtain ⟨rounds, hrounds, hread⟩ :=
      read_eq_entries_after d before (l :: after) hlines hfitBefore hnew
    -- a round is left for the repeated setting
    obtain ⟨r, rfl⟩ : ∃ r, rounds = r + 1 := ⟨rounds - 1, by simp at hrounds; omega⟩
    rw [hread, linesText_cons, entries_parse_line l hfitLine (head?_linesText after),
      if_pos hdup, duplicateMessage_of_isName l.setting.isName_name, SourcePos.advance_append]

/-- Two settings read as themselves, and a name set again fails after its second setting. -/
theorem read_width_title :
    let width : WrittenSetting :=
      ⟨"width", " ", " ", .number 80, [], by decide, by decide, by decide, rfl, rfl⟩
    let title : WrittenSetting :=
      ⟨"title", " ", " ", .text "Report", [], by decide, by decide, by decide, by decide, rfl⟩
    let d : WrittenDocument :=
      ⟨[], [⟨width, "\n\n", by decide, by decide⟩, ⟨title, "\n", by decide, by decide⟩], rfl⟩
    let first : WrittenLine := ⟨width, "\n", by decide, by decide⟩
    let again : WrittenDocument := ⟨[], [first, ⟨width, [], rfl, by simp⟩], rfl⟩
    (∀ l ∈ d.lines, l.setting.value.fitsDigitLimit = true) ∧
      ((linesDocument d.lines).map Prod.fst).Nodup ∧
      read d.text = .ok [("width", .number 80), ("title", .text "Report")]
        ⟨[], SourcePos.start.advance d.text⟩ ∧
      (∀ l ∈ again.lines, l.setting.value.fitsDigitLimit = true) ∧
      read again.text = .failed ⟨"duplicate setting 'width'", [],
        SourcePos.start.advance (linesText [first] ++ width.text)⟩ := by
  intro width title d first again
  have hfit : ∀ l ∈ d.lines, l.setting.value.fitsDigitLimit = true := by decide
  have hnew : ((linesDocument d.lines).map Prod.fst).Nodup := by decide
  have hfitAgain : ∀ l ∈ again.lines, l.setting.value.fitsDigitLimit = true := by decide
  have hdup := (read_written_document again hfitAgain).2 [first] ⟨width, [], rfl, by simp⟩ [] rfl
    (by decide) (by decide)
  have hmessage : ("duplicate setting '" ++ width.name ++ "'" : Text) =
      "duplicate setting 'width'" := by decide
  exact ⟨hfit, hnew, (read_written_document d hfit).1 hnew, hfitAgain, hmessage ▸ hdup⟩

/-- A written document stops with the fault of the digit limit at the first setting whose numeral
is beyond the limit, when the settings before it are within it and their names are distinct. -/
theorem read_written_document_of_not_fitsDigitLimit (d : WrittenDocument)
    (before : List WrittenLine) (l : WrittenLine) (after : List WrittenLine)
    (hlines : d.lines = before ++ l :: after)
    (hfit : ∀ l' ∈ before, l'.setting.value.fitsDigitLimit = true)
    (hnew : ((linesDocument before).map Prod.fst).Nodup)
    (hlong : l.setting.value.fitsDigitLimit = false) :
    read d.text = .raised (.tooManyDigits l.setting.value.written.length) := by
  obtain ⟨rounds, hrounds, hread⟩ := read_eq_entries_after d before (l :: after) hlines hfit hnew
  obtain ⟨r, rfl⟩ : ∃ r, rounds = r + 1 := ⟨rounds - 1, by simp at hrounds; omega⟩
  rw [hread, linesText_cons,
    entries_parse_line_of_not_fitsDigitLimit l hlong (head?_linesText after)]

/-- `x = ` and the decimal numeral of `10 ^ 4300`, a numeral of 4301 digits, does not read as the
setting of `x` to that number: reading it stops with the fault of the digit limit. -/
theorem read_number_beyond_digit_limit :
    read ("x = " ++ (toString (Nat.pow 10 Fault.digitLimit) : Text)) =
      .raised (.tooManyDigits (Fault.digitLimit + 1)) := by
  let x : WrittenSetting :=
    ⟨"x", " ", " ", .number (Nat.pow 10 Fault.digitLimit), [], by decide, by decide, by decide,
      rfl, rfl⟩
  let d : WrittenDocument := ⟨[], [⟨x, [], rfl, by simp⟩], rfl⟩
  -- the text is taken apart by rewriting alone: deciding it would compute the 4301 digits
  have htext : d.text = "x = " ++ (toString (Nat.pow 10 Fault.digitLimit) : Text) := by
    have hhead : ("x" ++ " " ++ "=" ++ " " : Text) = "x = " := by decide
    have hlead : d.lead = [] := rfl
    have hlines : d.lines = [⟨x, [], rfl, by simp⟩] := rfl
    have hname : x.name = "x" := rfl
    have hbefore : x.beforeEquals = " " := rfl
    have hafter : x.afterEquals = " " := rfl
    have htrailing : x.trailing = [] := rfl
    have hwritten : x.value.written = (toString (Nat.pow 10 Fault.digitLimit) : Text) := rfl
    rw [WrittenDocument.text, hlead, hlines, linesText_cons, linesText_nil, WrittenLine.text,
      WrittenSetting.text, hname, hbefore, hafter, hwritten, htrailing, List.append_nil,
      List.append_nil, List.append_nil, List.nil_append, hhead]
  have hlong : x.value.fitsDigitLimit = false := by
    simpa [x] using fitsDigitLimit_number_iff.not.mpr (Nat.lt_irrefl _)
  have hdigits : x.value.written.length = Fault.digitLimit + 1 := by
    simp only [x, SettingValue.written]
    exact length_toString_pow_ten Fault.digitLimit
  rw [← htext, read_written_document_of_not_fitsDigitLimit d [] ⟨x, [], rfl, by simp⟩ [] rfl
    (by simp) (by simp) hlong, hdigits]

end Settings

end ParserCombinators
