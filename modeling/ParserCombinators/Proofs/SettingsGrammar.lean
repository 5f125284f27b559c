import Mathlib.Data.List.TakeWhile
import ParserCombinators.Settings.Grammar
import ParserCombinators.Proofs.Position
import ParserCombinators.Proofs.Sequencing
/-!
How the settings grammar reads a written setting. A setting is written on its line as a name of
ASCII letters, digits and underscores that does not start with a digit, an equals sign with
spaces and tabs on either side, a value, and spaces and tabs (`WrittenSetting`); a number is
written in decimal, and a text between double quotes that it does not hold, with no newline.

Each part of the grammar reads its written form and stops where the next part starts: the name
at a space, a tab or the equals sign, the numeral at the first character that is no digit, the
spaces and tabs at the first other character. So `setting` reads a written setting followed by a
character that is neither a space, a tab nor a digit, or by the end of the input, whole, as its
name and value, as long as its numeral, if it has one, has no more digits than a numeral may have
to be read (`setting_parse_written`); a longer numeral stops the reading with the fault of the
digit limit (`setting_parse_written_of_not_fitsDigitLimit`). A name is written in messages between
apostrophes as it is (`quote_of_isName`).
-/

namespace ParserCombinators

namespace Settings

open ParserCombinators.Parser

/-! ### The characters of a written setting -/

/-- Spaces and tabs: the white space inside a setting's line. -/
def isBlank (c : CodePoint) : Bool := c == ' ' || c == '\t'

/-- A character that may start a name: an ASCII letter or an underscore. -/
def isNameStart (c : CodePoint) : Bool := (c.val < 0x80 && c.toChar.isAlpha) || c == '_'

/-- A character that may follow in a name: an ASCII letter or digit, or an underscore. -/
def isNameChar (c : CodePoint) : Bool := (c.val < 0x80 && c.toChar.isAlphanum) || c == '_'

def isName : Text → Bool
  | [] => false
  | c :: cs => isNameStart c && cs.all isNameChar

/-- Whether the format can write a value: a number always, a text when it holds neither a double
quote nor a newline. -/
def SettingValue.writable : SettingValue → Bool
  | .number _ => true
  | .text s => s.all fun c => c != '"' && c != '\n'

def SettingValue.fitsDigitLimit : SettingValue → Bool
  | .number n => (toString n : Text).length ≤ Fault.digitLimit
  | .text _ => true

/-- A setting as written on its line after the indentation: the name, the spaces and tabs before
and after the equals sign, the value, and the spaces and tabs after the value. -/
structure WrittenSetting where
  name : Text
  beforeEquals : Text
  afterEquals : Text
  value : SettingValue
  trailing : Text
  isName_name : isName name = true
  blank_beforeEquals : beforeEquals.all isBlank = true
  blank_afterEquals : afterEquals.all isBlank = true
  writable_value : value.writable = true
  blank_trailing : trailing.all isBlank = true

def WrittenSetting.text (s : WrittenSetting) : Text :=
  s.name ++ s.beforeEquals ++ "=" ++ s.afterEquals ++ s.value.written ++ s.trailing

/-! ### Facts about the characters -/

theorem val_lt_of_isNameStart {c : CodePoint} (h : isNameStart c = true) : c.val < 0x80 := by
  simp only [isNameStart, Bool.or_eq_true, Bool.and_eq_true, decide_eq_true_eq, beq_iff_eq] at h
  rcases h with ⟨h, -⟩ | rfl
  · exact h
  · decide

/-- A fact about every ASCII character, checked on each of the 128. -/
theorem forall_ascii {P : CodePoint → Prop} (h : ∀ n < 0x80, P (CodePoint.ofNat n))
    {c : CodePoint} (hc : c.val < 0x80) : P c := by
  have hc' : CodePoint.ofNat c.val = c := by simp [CodePoint.ofNat, c.lt]
  rw [← hc']
  exact h c.val hc

theorem isLetter_of_isNameStart {c : CodePoint} (h : isNameStart c = true) :
    (Text.isLetter c || c == '_') = true := by
  simp only [isNameStart, Bool.or_eq_true, Bool.and_eq_true, decide_eq_true_eq] at h
  rcases h with ⟨hval, halpha⟩ | h
  · simp [Text.isLetter, hval, halpha]
  · simp [h]

theorem isAlphanumeric_of_isNameChar {c : CodePoint} (h : isNameChar c = true) :
    (Text.isAlphanumeric c || c == '_') = true := by
  simp only [isNameChar, Bool.or_eq_true, Bool.and_eq_true, decide_eq_true_eq] at h
  rcases h with ⟨hval, halnum⟩ | h
  · simp only [Char.isAlphanum, Bool.or_eq_true] at halnum
    simp [Text.isAlphanumeric, Text.isLetter, Text.isNumeric, hval, halnum]
  · simp [h]

/-- A name is followed by a space, a tab or the equals sign, and neither may stand in a name. -/
theorem isAlphanumeric_of_isBlank_or_equals {c : CodePoint} (h : isBlank c = true ∨ c = '=') :
    (Text.isAlphanumeric c || c == '_') = false := by
  simp only [isBlank, Bool.or_eq_true, beq_iff_eq] at h
  rcases h with (rfl | rfl) | rfl <;> decide

theorem isDigit_of_isBlank {c : CodePoint} (h : isBlank c = true) : Text.isDigit c = false := by
  simp only [isBlank, Bool.or_eq_true, beq_iff_eq] at h
  rcases h with rfl | rfl <;> decide

/-- The first character of a name ends the setting before it: it is neither a space, a tab, white
space nor a digit. -/
theorem stops_of_isNameStart {c : CodePoint} (h : isNameStart c = true) :
    isBlank c = false ∧ Text.isDigit c = false ∧ Text.isSpace c = false := by
  have hascii : ∀ n < 0x80, isNameStart (CodePoint.ofNat n) = true →
      isBlank (CodePoint.ofNat n) = false ∧ Text.isDigit (CodePoint.ofNat n) = false ∧
        Text.isSpace (CodePoint.ofNat n) = false := by
    decide +kernel
  exact forall_ascii (P := fun c => isNameStart c = true →
      isBlank c = false ∧ Text.isDigit c = false ∧ Text.isSpace c = false) hascii
    (val_lt_of_isNameStart h) h

theorem isNameChar_of_mem_isName {name : Text} (h : isName name = true) :
    ∀ c ∈ name, isNameChar c = true := by
  obtain _ | ⟨c, cs⟩ := name
  · simp [isName] at h
  simp only [isName, Bool.and_eq_true, List.all_eq_true] at h
  obtain ⟨hstart, hchars⟩ := h
  intro d hd
  rcases List.mem_cons.mp hd with rfl | hd
  · simp only [isNameStart, Bool.or_eq_true, Bool.and_eq_true, decide_eq_true_eq] at hstart
    simp only [isNameChar, Bool.or_eq_true, Bool.and_eq_true, decide_eq_true_eq, Char.isAlphanum]
    rcases hstart with ⟨hval, halpha⟩ | h
    · exact .inl ⟨hval, by simp [halpha]⟩
    · exact .inr h
  · exact hchars d hd

/-- A character of a name is printable ASCII, and neither the backslash nor the apostrophe. -/
theorem plain_of_isNameChar {c : CodePoint} (h : isNameChar c = true) :
    0x20 ≤ c.val ∧ c.val < 0x7f ∧ c ≠ '\\' ∧ c ≠ '\'' := by
  have hval : c.val < 0x80 := by
    simp only [isNameChar, Bool.or_eq_true, Bool.and_eq_true, decide_eq_true_eq,
      beq_iff_eq] at h
    rcases h with ⟨h, -⟩ | rfl
    · exact h
    · decide
  have hascii : ∀ n < 0x80, isNameChar (CodePoint.ofNat n) = true →
      0x20 ≤ (CodePoint.ofNat n).val ∧ (CodePoint.ofNat n).val < 0x7f ∧
        CodePoint.ofNat n ≠ '\\' ∧ CodePoint.ofNat n ≠ '\'' := by
    decide +kernel
  exact forall_ascii (P := fun c => isNameChar c = true →
      0x20 ≤ c.val ∧ c.val < 0x7f ∧ c ≠ '\\' ∧ c ≠ '\'') hascii hval h

/-- A name is quoted between apostrophes, each of its characters standing for itself. -/
theorem quote_of_isName {name : Text} (h : isName name = true) :
    Text.quote name = "'" ++ name ++ "'" := by
  have hchars := isNameChar_of_mem_isName h
  have hnoApostrophe : name.contains '\'' = false := by
    simpa using fun hc => (plain_of_isNameChar (hchars _ hc)).2.2.2 rfl
  have hescape : ∀ s : Text, (∀ c ∈ s, isNameChar c = true) → Text.escape '\'' s = s := by
    intro s hs
    induction s with
    | nil => rfl
    | cons c cs ih =>
      obtain ⟨hlo, hhi, hb, hq⟩ := plain_of_isNameChar (hs c List.mem_cons_self)
      rw [Text.escape_cons, Text.escapeChar_plain '\'' c hlo hhi hb hq,
        ih fun d hd => hs d (List.mem_cons_of_mem c hd)]
      rfl
  have hq : ("'" : Text) = [('\'' : CodePoint)] := by decide
  simp only [Text.quote, Text.quoteFor, hnoApostrophe, Bool.false_and, Bool.false_eq_true,
    if_false, hescape name hchars, hq, List.cons_append, List.nil_append]

theorem duplicateMessage_of_isName {name : Text} (h : isName name = true) :
    duplicateMessage name = "duplicate setting '" ++ name ++ "'" := by
  have hsplit : ("duplicate setting '" : Text) = "duplicate setting " ++ "'" := by decide
  rw [duplicateMessage, quote_of_isName h, hsplit]
  simp only [List.append_assoc]

/-! ### Numerals -/

theorem val_of_isDigit {c : Char} (h : c.isDigit = true) :
    48 ≤ (CodePoint.ofChar c).val ∧ (CodePoint.ofChar c).val ≤ 57 := by
  simp only [Char.isDigit, Bool.and_eq_true, decide_eq_true_eq] at h
  obtain ⟨hlo, hhi⟩ := h
  simp only [CodePoint.val_ofChar]
  constructor
  · exact hlo
  · exact hhi

theorem isDecimal_of_val {c : CodePoint} (hlo : 48 ≤ c.val) (hhi : c.val ≤ 57) :
    Text.isDecimal c = true := by
  rw [Text.isDecimal, Text.inRanges_iff]
  exact ⟨(0x30, 0x39), by simp [Text.decimalRanges], hlo, hhi⟩

theorem decimalValue?_of_digitChar {d : Nat} (hd : d < 10) :
    Text.decimalValue? (CodePoint.ofChar (Nat.digitChar d)) = some d := by
  have hval : (CodePoint.ofChar (Nat.digitChar d)).val = 48 + d := by
    rw [CodePoint.val_ofChar, Nat.toNat_digitChar_of_lt_ten hd]
  have hrange : (0x30 : Nat) ≤ 48 + d ∧ 48 + d ≤ 0x39 := by omega
  simp only [Text.decimalValue?, Text.decimalRanges, Text.offsetInRanges, hval, if_pos hrange,
    Option.map_some]
  congr 1
  omega

theorem ofString_toString (n : Nat) :
    (toString n : Text) = (Nat.toDigits 10 n).map CodePoint.ofChar := by
  simp [Text.ofString, toString, Nat.repr]

theorem val_of_mem_toString {n : Nat} {c : CodePoint} (h : c ∈ (toString n : Text)) :
    48 ≤ c.val ∧ c.val ≤ 57 := by
  rw [ofString_toString, List.mem_map] at h
  obtain ⟨d, hd, rfl⟩ := h
  exact val_of_isDigit (Nat.isDigit_of_mem_toDigits (by decide) (by decide) hd)

theorem toString_ne_nil (n : Nat) : (toString n : Text) ≠ [] := by
  rw [ofString_toString]
  intro h
  have hlen := Nat.length_toDigits_pos (b := 10) (n := n)
  rw [List.map_eq_nil_iff] at h
  rw [h] at hlen
  exact absurd hlen (by decide)

/-- Reading the digits of a number gives the number back. The induction follows the digits from
the last: the number is ten times the number its other digits make, plus its last digit. -/
theorem decimalDigitsValue_toString (n : Nat) :
    Text.decimalDigitsValue (toString n : Text) = n := by
  induction n using Nat.strongRecOn with
  | ind n ih =>
    rw [ofString_toString, Nat.toDigits_eq_if (by decide)]
    split
    · rename_i hn
      simp [Text.decimalDigitsValue, decimalValue?_of_digitChar hn]
    · rename_i hn
      have hlast : n % 10 < 10 := Nat.mod_lt n (by decide)
      have hprev := ih (n / 10) (by omega)
      rw [ofString_toString] at hprev
      simp only [Text.decimalDigitsValue, List.map_append, List.foldl_append, List.map_cons,
        List.map_nil, List.foldl_cons, List.foldl_nil] at hprev ⊢
      rw [hprev, decimalValue?_of_digitChar hlast, Option.getD_some]
      omega

theorem isDecimal_of_mem_toString {n : Nat} {c : CodePoint} (h : c ∈ (toString n : Text)) :
    Text.isDecimal c = true :=
  isDecimal_of_val (val_of_mem_toString h).1 (val_of_mem_toString h).2

theorem isDigit_of_isDecimal {c : CodePoint} (h : Text.isDecimal c = true) :
    Text.isDigit c = true := by
  simp [Text.isDigit, h]

theorem length_takeWhile_lt_iff {p : CodePoint → Bool} {t : Text} :
    (t.takeWhile p).length < t.length ↔ t.all p = false := by
  have hlead : t.takeWhile p <+: t := List.takeWhile_prefix p
  constructor
  · intro hlt
    cases hall : t.all p
    · rfl
    · have hself : t.takeWhile p = t := List.takeWhile_eq_self_iff.mpr (List.all_eq_true.mp hall)
      rw [hself] at hlt
      exact absurd hlt (Nat.lt_irrefl _)
  · intro hall
    refine Nat.lt_of_le_of_ne hlead.length_le fun hlen => ?_
    have hself : ∀ c ∈ t, p c = true := List.takeWhile_eq_self_iff.mp (hlead.eq_of_length hlen)
    rw [List.all_eq_true.mpr hself] at hall
    cases hall

/-- Reading a non-empty numeral: a leading run of decimal digits longer than the limit is refused
with its length; otherwise a numeral of decimal digits reads as the number it writes, and one
holding any other character is refused as an invalid literal. -/
theorem readDecimal_of_ne_nil {t : Text} (hne : t ≠ []) :
    Text.readDecimal t =
      if Fault.digitLimit < (t.takeWhile Text.isDecimal).length then
        .error (.tooManyDigits (t.takeWhile Text.isDecimal).length)
      else if t.all Text.isDecimal then .ok (Text.decimalDigitsValue t)
      else .error (.invalidLiteral t) := by
  have hempty : t.isEmpty = false := List.isEmpty_eq_false_iff.mpr hne
  simp only [Text.readDecimal, hempty, Bool.false_or, decide_eq_true_eq]
  by_cases hall : t.all Text.isDecimal = true
  · have hfull : ¬ (t.takeWhile Text.isDecimal).length < t.length := by
      rw [length_takeWhile_lt_iff, hall]
      exact Bool.noConfusion
    simp only [hfull, hall, if_false, if_true]
  · have hsome : t.all Text.isDecimal = false := Bool.eq_false_iff.mpr hall
    have hshort : (t.takeWhile Text.isDecimal).length < t.length :=
      length_takeWhile_lt_iff.mpr hsome
    simp only [hshort, hsome, Bool.false_eq_true, if_false, if_true]

theorem readDecimal_of_isDecimal {t : Text} (hne : t ≠ []) (h : ∀ c ∈ t, Text.isDecimal c = true) :
    Text.readDecimal t =
      if Fault.digitLimit < t.length then .error (.tooManyDigits t.length)
      else .ok (Text.decimalDigitsValue t) := by
  rw [readDecimal_of_ne_nil hne, List.takeWhile_eq_self_iff.mpr h,
    if_pos (List.all_eq_true.mpr h)]

theorem length_toString_le_iff {n k : Nat} (hk : 0 < k) :
    (toString n : Text).length ≤ k ↔ n < Nat.pow 10 k := by
  rw [ofString_toString, List.length_map]
  exact Nat.length_toDigits_le_iff (by decide) hk

theorem fitsDigitLimit_number_iff {n : Nat} :
    (SettingValue.number n).fitsDigitLimit = true ↔ n < Nat.pow 10 Fault.digitLimit := by
  simp only [SettingValue.fitsDigitLimit, decide_eq_true_eq]
  exact length_toString_le_iff (by decide)

theorem length_toString_pow_ten (k : Nat) :
    (toString (Nat.pow 10 k) : Text).length = k + 1 := by
  have hle : (toString (Nat.pow 10 k) : Text).length ≤ k + 1 :=
    (length_toString_le_iff (Nat.succ_pos k)).mpr (Nat.pow_lt_pow_right (by decide) (by omega))
  have hgt : ¬ (toString (Nat.pow 10 k) : Text).length ≤ k := by
    cases k with
    | zero =>
      have hpos := List.length_pos_iff.mpr (toString_ne_nil (Nat.pow 10 0))
      omega
    | succ k => exact fun h => Nat.lt_irrefl _ ((length_toString_le_iff (Nat.succ_pos k)).mp h)
  omega

/-! ### The parts of the grammar -/

/-- A run of characters that pass a test, followed by one that fails it or by the end of the
input, is what `span` reads. -/
theorem span_parse_append (pred : CodePoint → Bool) (desc : Text) {run rest : Text}
    (hrun : ∀ c ∈ run, pred c = true) (hrest : ∀ c ∈ rest.head?, pred c = false)
    (pos : SourcePos) :
    (Parser.span pred desc).parse ⟨run ++ rest, pos⟩ = .ok run ⟨rest, pos.advance run⟩ := by
  have hstop : rest.takeWhile pred = [] := by
    cases rest with
    | nil => rfl
    | cons c cs => simp [hrest c rfl]
  have htake : (run ++ rest).takeWhile pred = run := by
    rw [List.takeWhile_append_of_pos hrun, hstop, List.append_nil]
  rw [Parser.span_parse]
  simp only [htake, List.drop_left]

theorem blanks_parse_append {b rest : Text} (hb : b.all isBlank = true)
    (hrest : ∀ c ∈ rest.head?, isBlank c = false) (pos : SourcePos) :
    blanks.parse ⟨b ++ rest, pos⟩ = .ok b ⟨rest, pos.advance b⟩ :=
  span_parse_append isBlank "blanks" (List.all_eq_true.mp hb) hrest pos

theorem lexeme_parse_of_ok {p : Parser α} {st : State} {v : α} {b rest : Text}
    {pos : SourcePos} (h : p.parse st = .ok v ⟨b ++ rest, pos⟩) (hb : b.all isBlank = true)
    (hrest : ∀ c ∈ rest.head?, isBlank c = false) :
    (lexeme p).parse st = .ok v ⟨rest, pos.advance b⟩ := by
  rw [lexeme, flatMap_parse_of_ok h, map_parse_of_ok (blanks_parse_append hb hrest pos)]

theorem lexeme_parse_of_raised {p : Parser α} {st : State} {x : Fault}
    (h : p.parse st = .raised x) : (lexeme p).parse st = .raised x := by
  rw [lexeme, flatMap_parse_of_raised h]

/-- A name is read whole when a character that may not stand in a name follows it. -/
theorem identifier_parse_append {name rest : Text} (hname : isName name = true)
    (hrest : ∀ c ∈ rest.head?, (Text.isAlphanumeric c || c == '_') = false) (pos : SourcePos) :
    identifier.parse ⟨name ++ rest, pos⟩ = .ok name ⟨rest, pos.advance name⟩ := by
  obtain _ | ⟨c, cs⟩ := name
  · simp [isName] at hname
  simp only [isName, Bool.and_eq_true, List.all_eq_true] at hname
  obtain ⟨hstart, hchars⟩ := hname
  have hfirst := satisfy_parse_of_pred (fun c => Text.isLetter c || c == '_') "identifier" c
    (cs ++ rest) pos (isLetter_of_isNameStart hstart)
  have hrun := span_parse_append (fun c => Text.isAlphanumeric c || c == '_') "identifier"
    (fun d hd => isAlphanumeric_of_isNameChar (hchars d hd)) hrest (pos.advance [c])
  rw [identifier, named_parse, List.cons_append, flatMap_parse_of_ok hfirst,
    map_parse_of_ok hrun, SourcePos.advance_append]
  rfl

/-- A numeral is read by `value` and converted by the decimal reading, which may fault. -/
theorem value_parse_numeral {numeral rest : Text} (hne : numeral ≠ [])
    (hdigits : numeral.all Text.isDigit = true) (hrest : ∀ c ∈ rest.head?, Text.isDigit c = false)
    (pos : SourcePos) :
    value.parse ⟨numeral ++ rest, pos⟩ =
      match Text.readDecimal numeral with
      | .ok n => .ok (.number n) ⟨rest, pos.advance numeral⟩
      | .error x => .raised x := by
  obtain _ | ⟨d, ds⟩ := numeral
  · exact absurd rfl hne
  simp only [List.all_cons, Bool.and_eq_true] at hdigits
  obtain ⟨hd, hds⟩ := hdigits
  -- the first digit is no double quote, so the numeral branch is taken
  have hquote : (d == '"') = false := by
    cases hq : d == '"'
    · rfl
    · rw [beq_iff_eq.mp hq] at hd
      exact absurd hd (by decide)
  have hfirst := satisfy_parse_of_pred (fun c => c == '"' || Text.isDigit c) "value" d
    (ds ++ rest) pos (by simp [hd])
  have hrun := span_parse_append Text.isDigit "digits" (List.all_eq_true.mp hds) hrest
    (pos.advance [d])
  rw [value, named_parse, List.cons_append, flatMap_parse_of_ok hfirst]
  simp only [hquote, Bool.false_eq_true, if_false]
  rw [tryMap_parse_of_ok hrun, SourcePos.advance_append]
  cases Text.readDecimal (d :: ds) <;> rfl

/-- What `value` replies on a run of digits followed by no digit, whatever digits they are: the
three outcomes of reading the run as a number. -/
theorem value_parse_digits {numeral rest : Text} (hne : numeral ≠ [])
    (hdigits : ∀ c ∈ numeral, Text.isDigit c = true)
    (hrest : ∀ c ∈ rest.head?, Text.isDigit c = false) (pos : SourcePos) :
    value.parse ⟨numeral ++ rest, pos⟩ =
      if Fault.digitLimit < (numeral.takeWhile Text.isDecimal).length then
        .raised (.tooManyDigits (numeral.takeWhile Text.isDecimal).length)
      else if numeral.all Text.isDecimal then
        .ok (.number (Text.decimalDigitsValue numeral)) ⟨rest, pos.advance numeral⟩
      else .raised (.invalidLiteral numeral) := by
  rw [value_parse_numeral hne (List.all_eq_true.mpr hdigits) hrest pos, readDecimal_of_ne_nil hne]
  by_cases hlong : Fault.digitLimit < (numeral.takeWhile Text.isDecimal).length
  · simp only [if_pos hlong]
  · by_cases hall : numeral.all Text.isDecimal = true
    · simp only [if_neg hlong, if_pos hall]
    · simp only [if_neg hlong, if_neg hall]

/-- What `value` reads from a run of decimal digits followed by no digit: the number the run
writes, when it has no more digits than the limit; a longer run stops the reading with the fault
of the limit. -/
theorem value_parse_decimal {numeral rest : Text} (hne : numeral ≠ [])
    (hdecimal : ∀ c ∈ numeral, Text.isDecimal c = true)
    (hrest : ∀ c ∈ rest.head?, Text.isDigit c = false) (pos : SourcePos) :
    value.parse ⟨numeral ++ rest, pos⟩ =
      if Fault.digitLimit < numeral.length then .raised (.tooManyDigits numeral.length)
      else .ok (.number (Text.decimalDigitsValue numeral)) ⟨rest, pos.advance numeral⟩ := by
  have hdigits : numeral.all Text.isDigit = true :=
    List.all_eq_true.mpr fun c hc => isDigit_of_isDecimal (hdecimal c hc)
  rw [value_parse_numeral hne hdigits hrest pos, readDecimal_of_isDecimal hne hdecimal]
  by_cases hlong : Fault.digitLimit < numeral.length
  · simp only [if_pos hlong]
  · simp only [if_neg hlong]

theorem quote_eq : ("\"" : Text) = [('"' : CodePoint)] := by decide

theorem value_parse_text {s : Text} (hs : (SettingValue.text s).writable = true) (rest : Text)
    (pos : SourcePos) :
    value.parse ⟨(SettingValue.text s).written ++ rest, pos⟩ =
      .ok (.text s) ⟨rest, pos.advance (SettingValue.text s).written⟩ := by
  have hwritten : (SettingValue.text s).written ++ rest =
      ('"' : CodePoint) :: (s ++ ('"' : CodePoint) :: rest) := by
    simp [SettingValue.written, quote_eq]
  have hbody : ∀ c ∈ s, (c != '"' && c != '\n') = true := List.all_eq_true.mp hs
  have hstop : ∀ c ∈ (('"' : CodePoint) :: rest).head?, (c != '"' && c != '\n') = false := by
    simp only [List.head?_cons, Option.mem_def, Option.some.injEq]
    rintro c rfl
    decide
  have hfirst := satisfy_parse_of_pred (fun c => c == '"' || Text.isDigit c) "value" '"'
    (s ++ ('"' : CodePoint) :: rest) pos (by decide)
  have hrun := span_parse_append (fun c => c != '"' && c != '\n') "string body" hbody hstop
    (pos.advance [('"' : CodePoint)])
  have hclose := satisfy_parse_of_pred (· == ('"' : CodePoint)) (Text.quoteChar '"') '"' rest
    ((pos.advance [('"' : CodePoint)]).advance s) (by decide)
  rw [hwritten, value, named_parse, flatMap_parse_of_ok hfirst]
  simp only [beq_self_eq_true, if_true]
  rw [quotedBody, flatMap_parse_of_ok hrun, char, map_parse_of_ok (error_parse_of_ok hclose _)]
  simp only [SettingValue.written, quote_eq, SourcePos.advance_append]

/-! ### Written values and settings -/

theorem head?_blank_append {P : CodePoint → Prop} {b t : Text} (hb : b.all isBlank = true)
    (hblank : ∀ c, isBlank c = true → P c) (ht : ∀ c ∈ t.head?, P c) :
    ∀ c ∈ (b ++ t).head?, P c := by
  cases b with
  | nil => exact ht
  | cons d ds =>
    simp only [List.all_cons, Bool.and_eq_true] at hb
    intro c hc
    simp only [List.cons_append, List.head?_cons, Option.mem_def, Option.some.injEq] at hc
    rw [← hc]
    exact hblank d hb.1

/-- A written value starts with a digit or a double quote, so the spaces and tabs before it stop
there. -/
theorem head?_written_append (v : SettingValue) (t : Text) :
    ∀ c ∈ (v.written ++ t).head?, isBlank c = false := by
  intro c hc
  cases v with
  | number n =>
    obtain ⟨d, ds, hd⟩ := List.exists_cons_of_ne_nil (toString_ne_nil n)
    simp only [SettingValue.written, hd, List.cons_append, List.head?_cons, Option.mem_def,
      Option.some.injEq] at hc
    have hmem : c ∈ (toString n : Text) := by
      rw [hd, ← hc]
      exact List.mem_cons_self
    have hlo : 48 ≤ c.val := (val_of_mem_toString hmem).1
    cases hb : isBlank c
    · rfl
    · simp only [isBlank, Bool.or_eq_true, beq_iff_eq] at hb
      rcases hb with rfl | rfl <;> exact absurd hlo (by decide)
  | text s =>
    simp only [SettingValue.written, quote_eq, List.cons_append, List.nil_append,
      List.head?_cons, Option.mem_def, Option.some.injEq] at hc
    rw [← hc]
    decide

/-- A written value within the digit limit is read as that value, up to a character that is no
digit. -/
theorem value_parse_written {v : SettingValue} (hw : v.writable = true)
    (hfit : v.fitsDigitLimit = true) {rest : Text}
    (hrest : ∀ c ∈ rest.head?, Text.isDigit c = false) (pos : SourcePos) :
    value.parse ⟨v.written ++ rest, pos⟩ = .ok v ⟨rest, pos.advance v.written⟩ := by
  cases v with
  | number n =>
    have hlen : (toString n : Text).length ≤ Fault.digitLimit := by
      simpa [SettingValue.fitsDigitLimit] using hfit
    simp only [SettingValue.written]
    rw [value_parse_decimal (toString_ne_nil n) (fun _ => isDecimal_of_mem_toString) hrest pos,
      if_neg (Nat.not_lt.mpr hlen), decimalDigitsValue_toString]
  | text s => exact value_parse_text hw rest pos

theorem value_parse_written_of_not_fitsDigitLimit {v : SettingValue}
    (hfit : v.fitsDigitLimit = false) {rest : Text}
    (hrest : ∀ c ∈ rest.head?, Text.isDigit c = false) (pos : SourcePos) :
    value.parse ⟨v.written ++ rest, pos⟩ = .raised (.tooManyDigits v.written.length) := by
  cases v with
  | number n =>
    have hlen : ¬ (toString n : Text).length ≤ Fault.digitLimit := by
      simpa [SettingValue.fitsDigitLimit] using hfit
    simp only [SettingValue.written]
    rw [value_parse_decimal (toString_ne_nil n) (fun _ => isDecimal_of_mem_toString) hrest pos,
      if_pos (Nat.lt_of_not_le hlen)]
  | text s => simp [SettingValue.fitsDigitLimit] at hfit

/-- A name, the spaces and tabs around an equals sign and the sign itself are read by `setting` up
to what follows them, when that starts with neither a space nor a tab; the value is read from
there. -/
theorem setting_parse_after_equals {name before after t : Text} (hname : isName name = true)
    (hbefore : before.all isBlank = true) (hafter : after.all isBlank = true)
    (ht : ∀ c ∈ t.head?, isBlank c = false) (pos : SourcePos) :
    setting.parse ⟨name ++ before ++ "=" ++ after ++ t, pos⟩ =
      ((lexeme value).map fun v => (⟨name, v⟩ : Entry)).parse
        ⟨t, pos.advance (name ++ before ++ "=" ++ after)⟩ := by
  have hq : ("=" : Text) = [('=' : CodePoint)] := by decide
  have htext : name ++ before ++ "=" ++ after ++ t =
      name ++ (before ++ (('=' : CodePoint) :: (after ++ t))) := by
    simp [hq]
  -- the name stops at the spaces and tabs before the equals sign, or at the sign itself
  have hstop : ∀ c ∈ (before ++ (('=' : CodePoint) :: (after ++ t))).head?,
      (Text.isAlphanumeric c || c == '_') = false :=
    head?_blank_append hbefore
      (fun _ hc => isAlphanumeric_of_isBlank_or_equals (.inl hc))
      (fun c hc => isAlphanumeric_of_isBlank_or_equals (.inr (by simpa using hc.symm)))
  have hequalsHead : ∀ c ∈ ((('=' : CodePoint) :: (after ++ t))).head?, isBlank c = false := by
    simp only [List.head?_cons, Option.mem_def, Option.some.injEq]
    rintro c rfl
    decide
  have hlexName := lexeme_parse_of_ok (identifier_parse_append hname hstop pos) hbefore
    hequalsHead
  have hequals := satisfy_parse_of_pred (· == ('=' : CodePoint)) (Text.quoteChar '=') '='
    (after ++ t) ((pos.advance name).advance before) (by decide)
  have hlexEquals := lexeme_parse_of_ok (p := Parser.char '=') hequals hafter ht
  rw [htext, setting, flatMap_parse_of_ok hlexName,
    flatMap_parse_of_ok (error_parse_of_ok hlexEquals _)]
  simp only [SourcePos.advance_append, hq]

theorem setting_parse_eq_value (s : WrittenSetting) (t : Text) (pos : SourcePos) :
    setting.parse ⟨s.text ++ t, pos⟩ =
      ((lexeme value).map fun v => (⟨s.name, v⟩ : Entry)).parse
        ⟨s.value.written ++ (s.trailing ++ t),
          pos.advance (s.name ++ s.beforeEquals ++ "=" ++ s.afterEquals)⟩ := by
  have htext : s.text ++ t =
      s.name ++ s.beforeEquals ++ "=" ++ s.afterEquals ++ (s.value.written ++ (s.trailing ++ t)) := by
    simp [WrittenSetting.text]
  rw [htext]
  exact setting_parse_after_equals s.isName_name s.blank_beforeEquals s.blank_afterEquals
    (head?_written_append s.value (s.trailing ++ t)) pos

theorem head?_trailing_append (s : WrittenSetting) {rest : Text}
    (hrest : ∀ c ∈ rest.head?, isBlank c = false ∧ Text.isDigit c = false) :
    ∀ c ∈ (s.trailing ++ rest).head?, Text.isDigit c = false :=
  head?_blank_append s.blank_trailing (fun _ hc => isDigit_of_isBlank hc)
    (fun c hc => (hrest c hc).2)

/-- A written setting followed by the end of the input or by a character that is neither a
space, a tab nor a digit is read whole, as its name and value, when its numeral, if it has one, is
within the digit limit. -/
theorem setting_parse_written (s : WrittenSetting) (hfit : s.value.fitsDigitLimit = true)
    {rest : Text} (hrest : ∀ c ∈ rest.head?, isBlank c = false ∧ Text.isDigit c = false)
    (pos : SourcePos) :
    setting.parse ⟨s.text ++ rest, pos⟩ = .ok ⟨s.name, s.value⟩ ⟨rest, pos.advance s.text⟩ := by
  rw [setting_parse_eq_value, map_parse_of_ok (lexeme_parse_of_ok
    (value_parse_written s.writable_value hfit (head?_trailing_append s hrest) _)
    s.blank_trailing (fun c hc => (hrest c hc).1))]
  simp only [WrittenSetting.text, SourcePos.advance_append]

/-- A written setting whose numeral is beyond the digit limit stops the reading with the count of
the numeral's digits. -/
theorem setting_parse_written_of_not_fitsDigitLimit (s : WrittenSetting)
    (hfit : s.value.fitsDigitLimit = false) {rest : Text}
    (hrest : ∀ c ∈ rest.head?, isBlank c = false ∧ Text.isDigit c = false) (pos : SourcePos) :
    setting.parse ⟨s.text ++ rest, pos⟩ = .raised (.tooManyDigits s.value.written.length) := by
  rw [setting_parse_eq_value, map_parse_of_raised (lexeme_parse_of_raised
    (value_parse_written_of_not_fitsDigitLimit hfit (head?_trailing_append s hrest) _))]

/-! ### The grammar is built from the library -/

theorem lexeme_built {p : Parser α} (hp : p.Built) : (lexeme p).Built :=
  .flatMap hp fun _ => .tryMap _ (.span _ _)

theorem identifier_built : identifier.Built :=
  .named _ (.flatMap (.satisfy _ _) fun _ => .tryMap _ (.span _ _))

theorem value_built : value.Built := by
  refine .named _ (.flatMap (.satisfy _ _) fun first => ?_)
  -- a quote opens a text, any other first character a numeral
  split
  · exact .flatMap (.span _ _) fun _ => .tryMap _ (.error _ (.satisfy _ _))
  · exact .tryMap _ (.span _ _)

theorem setting_built : setting.Built :=
  .flatMap (lexeme_built identifier_built) fun _ =>
    .flatMap (.error _ (lexeme_built (.satisfy _ _))) fun _ =>
      .tryMap _ (lexeme_built value_built)

theorem entries_built (rounds : Nat) (doc : Document) : (entries rounds doc).Built := by
  induction rounds generalizing doc with
  | zero =>
    rw [entries]
    refine .flatMap .peek fun rest => ?_
    split
    · exact .pure _
    · exact .raise _
  | succ rounds ih =>
    rw [entries]
    refine .flatMap .peek fun rest => ?_
    split
    · exact .pure _
    · refine .flatMap setting_built fun e => ?_
      -- a name read before fails the round, any other goes on to the next
      split
      · exact .fail _ _
      · exact .flatMap (.span _ _) fun _ => ih _

/-- The settings grammar is built from the library's recognisers and combinators. -/
theorem document_built : document.Built :=
  .named _ (.flatMap (.span _ _) fun _ => .flatMap .peek fun _ => entries_built _ _)

end Settings

end ParserCombinators
