import ParserCombinators.Proofs.SettingsLoop
/-!
What the settings grammar accepts. A setting is read from a name of Unicode letters, digits and
underscores that starts with a letter or an underscore, spaces and tabs, an equals sign, spaces
and tabs, a value and spaces and tabs (`SettingText`). The value is a text between double quotes
that holds neither a quote nor a newline, or a run of digits that the decimal reading accepts
(`ValueText`). No part of a setting holds a newline, so each setting lies within one line.

A text that reads is white space, then settings, each followed by white space, and it reads as
those settings in order, with distinct names (`read_eq_ok_layout`). The white space between two
settings is any white space: nothing asks for a newline there, so two settings may share a line.

Each lemma here says what one part of the grammar has read when it succeeds; the loop is taken
round by round through `entries_round`.
-/

namespace ParserCombinators

namespace Settings

open ParserCombinators.Parser

/-! ### Settings as read -/

/-- A name as the grammar reads it: a letter or an underscore, then letters, digits and
underscores. -/
def isIdentifier : Text → Bool
  | [] => false
  | c :: cs => (Text.isLetter c || c == '_') && cs.all fun d => Text.isAlphanumeric d || d == '_'

/-- How the grammar reads a value from its text: a text between double quotes that holds neither
a quote nor a newline is that text, and a non-empty run of digits is the number the decimal
reading gives for it. -/
inductive ValueText : Text → SettingValue → Prop
  | quoted (body : Text) (hbody : body.all (fun c => c != '"' && c != '\n') = true) :
      ValueText (('"' : CodePoint) :: (body ++ [('"' : CodePoint)])) (.text body)
  | numeral (digits : Text) (n : Nat) (hne : digits ≠ []) (hdigits : digits.all Text.isDigit = true)
      (hread : Text.readDecimal digits = .ok n) : ValueText digits (.number n)

/-- A setting as the grammar reads it: a name, spaces and tabs, the equals sign, spaces and tabs,
the text of a value and spaces and tabs. -/
structure SettingText where
  name : Text
  beforeEquals : Text
  afterEquals : Text
  valueText : Text
  trailing : Text
  value : SettingValue
  isIdentifier_name : isIdentifier name = true
  blank_beforeEquals : beforeEquals.all isBlank = true
  blank_afterEquals : afterEquals.all isBlank = true
  reads_value : ValueText valueText value
  blank_trailing : trailing.all isBlank = true

def SettingText.text (s : SettingText) : Text :=
  s.name ++ s.beforeEquals ++ "=" ++ s.afterEquals ++ s.valueText ++ s.trailing

/-! ### No setting spans two lines -/

theorem newline_not_mem_of_all {t : Text} {p : CodePoint → Bool} (h : t.all p = true)
    (hnewline : p '\n' = false) : ('\n' : CodePoint) ∉ t := by
  intro hmem
  have hpass := List.all_eq_true.mp h _ hmem
  rw [hnewline] at hpass
  cases hpass

theorem isIdentifier_newline_not_mem {name : Text} (h : isIdentifier name = true) :
    ('\n' : CodePoint) ∉ name := by
  obtain _ | ⟨c, cs⟩ := name
  · cases h
  simp only [isIdentifier, Bool.and_eq_true] at h
  obtain ⟨hfirst, hrest⟩ := h
  rintro (_ | ⟨_, hmem⟩)
  · exact absurd hfirst (by decide)
  · exact newline_not_mem_of_all hrest (by decide) hmem

theorem ValueText.newline_not_mem {t : Text} {v : SettingValue} (h : ValueText t v) :
    ('\n' : CodePoint) ∉ t := by
  cases h with
  | quoted body hbody =>
    have hquote : ('\n' : CodePoint) ≠ '"' := by decide
    simpa [hquote] using newline_not_mem_of_all hbody (by decide)
  | numeral digits n _ hdigits _ => exact newline_not_mem_of_all hdigits (by decide)

/-- A setting lies within one line. -/
theorem SettingText.newline_not_mem (s : SettingText) : ('\n' : CodePoint) ∉ s.text := by
  have hblank : isBlank '\n' = false := by decide
  have hequals : ('\n' : CodePoint) ∉ ("=" : Text) := by decide
  simp only [SettingText.text, List.mem_append, not_or]
  exact ⟨⟨⟨⟨⟨isIdentifier_newline_not_mem s.isIdentifier_name,
    newline_not_mem_of_all s.blank_beforeEquals hblank⟩, hequals⟩,
    newline_not_mem_of_all s.blank_afterEquals hblank⟩, s.reads_value.newline_not_mem⟩,
    newline_not_mem_of_all s.blank_trailing hblank⟩

/-! ### What each part of the grammar has read -/

theorem blanks_parse_eq_ok {st next : State} {b : Text} (h : blanks.parse st = .ok b next) :
    st.input = b ++ next.input ∧ b.all isBlank = true := by
  obtain ⟨hinput, hall, -⟩ := span_parse_eq_ok _ h
  exact ⟨hinput, List.all_eq_true.mpr hall⟩

theorem lexeme_parse_eq_ok {p : Parser α} {st next : State} {v : α}
    (h : (lexeme p).parse st = .ok v next) :
    ∃ mid b, p.parse st = .ok v mid ∧ mid.input = b ++ next.input ∧ b.all isBlank = true := by
  obtain ⟨w, mid, hp, hblank⟩ := flatMap_parse_eq_ok h
  obtain ⟨b, hb, rfl⟩ := map_parse_eq_ok hblank
  exact ⟨mid, b, hp, blanks_parse_eq_ok hb⟩

theorem identifier_parse_eq_ok {st next : State} {name : Text}
    (h : identifier.parse st = .ok name next) :
    st.input = name ++ next.input ∧ isIdentifier name = true := by
  obtain ⟨first, mid, hfirst, hrest⟩ := flatMap_parse_eq_ok h
  obtain ⟨rest, hspan, rfl⟩ := map_parse_eq_ok hrest
  obtain ⟨hinput, hletter, -⟩ := satisfy_parse_eq_ok _ hfirst
  obtain ⟨hmid, hall, -⟩ := span_parse_eq_ok _ hspan
  refine ⟨by rw [hinput, hmid, List.cons_append], ?_⟩
  simp only [isIdentifier, hletter, Bool.true_and]
  exact List.all_eq_true.mpr hall

/-- A value has read the text of a value, which reads as that value. -/
theorem value_parse_eq_ok {st next : State} {v : SettingValue}
    (h : value.parse st = .ok v next) : ∃ t, st.input = t ++ next.input ∧ ValueText t v := by
  obtain ⟨first, mid, hfirst, hrest⟩ := flatMap_parse_eq_ok h
  obtain ⟨hinput, hpred, -⟩ := satisfy_parse_eq_ok _ hfirst
  by_cases hquote : (first == '"') = true
  · -- a quote opens a text, which runs to the closing quote
    simp only [hquote, if_true] at hrest
    obtain ⟨body, afterBody, hbody, hclose⟩ := flatMap_parse_eq_ok hrest
    obtain ⟨c, hc, rfl⟩ := map_parse_eq_ok hclose
    obtain ⟨hcinput, hcquote, -⟩ := satisfy_parse_eq_ok _ (error_parse_eq_ok hc)
    obtain ⟨hmid, hall, -⟩ := span_parse_eq_ok _ hbody
    refine ⟨('"' : CodePoint) :: (body ++ [('"' : CodePoint)]), ?_,
      .quoted body (List.all_eq_true.mpr hall)⟩
    rw [hinput, hmid, hcinput, beq_iff_eq.mp hquote, beq_iff_eq.mp hcquote]
    simp
  · -- any other first character is a digit, and the digits after it make the numeral
    simp only [hquote, Bool.false_eq_true, if_false] at hrest
    obtain ⟨rest, hspan, hread⟩ := tryMap_parse_eq_ok hrest
    obtain ⟨hmid, hall, -⟩ := span_parse_eq_ok _ hspan
    obtain ⟨n, hn, rfl⟩ : ∃ n, Text.readDecimal (first :: rest) = .ok n ∧ v = .number n := by
      cases hr : Text.readDecimal (first :: rest) with
      | ok n => exact ⟨n, rfl, by simpa [hr, Except.map] using hread.symm⟩
      | error x => simp [hr, Except.map] at hread
    have hdigit : Text.isDigit first = true := by simpa [hquote] using hpred
    refine ⟨first :: rest, by rw [hinput, hmid, List.cons_append],
      .numeral _ n (List.cons_ne_nil _ _) ?_ hn⟩
    simp only [List.all_cons, hdigit, Bool.true_and]
    exact List.all_eq_true.mpr hall

/-- A setting has read the text of a setting, and its name and value are those of that text. -/
theorem setting_parse_eq_ok {st next : State} {e : Entry} (h : setting.parse st = .ok e next) :
    ∃ s : SettingText, st.input = s.text ++ next.input ∧ e = ⟨s.name, s.value⟩ := by
  obtain ⟨name, afterName, hname, hrest⟩ := flatMap_parse_eq_ok h
  obtain ⟨c, afterEquals, hequals, hvalue⟩ := flatMap_parse_eq_ok hrest
  obtain ⟨v, hlexValue, rfl⟩ := map_parse_eq_ok hvalue
  obtain ⟨midName, b1, hid, hb1, hblank1⟩ := lexeme_parse_eq_ok hname
  obtain ⟨midEquals, b2, hchar, hb2, hblank2⟩ := lexeme_parse_eq_ok (error_parse_eq_ok hequals)
  obtain ⟨midValue, b3, hval, hb3, hblank3⟩ := lexeme_parse_eq_ok hlexValue
  obtain ⟨hidInput, hidentifier⟩ := identifier_parse_eq_ok hid
  obtain ⟨hcInput, hc, -⟩ := satisfy_parse_eq_ok _ hchar
  obtain ⟨t, hvInput, hvalueText⟩ := value_parse_eq_ok hval
  refine ⟨⟨name, b1, b2, t, b3, v, hidentifier, hblank1, hblank2, hvalueText, hblank3⟩, ?_, rfl⟩
  have hq : ("=" : Text) = [('=' : CodePoint)] := by decide
  rw [hidInput, hb1, hcInput, beq_iff_eq.mp hc, hb2, hvInput, hb3]
  simp [SettingText.text, hq]

/-! ### What the loop and a whole reading have read -/

/-- The settings `items` write: each setting's text and the white space after it, in turn. -/
def itemsText (items : List (SettingText × Text)) : Text :=
  (items.map fun i => i.1.text ++ i.2).flatten

def itemsDocument (items : List (SettingText × Text)) : Document :=
  items.map fun i => (i.1.name, i.1.value)

/-- A loop that ends with settings has read all its input, as settings each followed by white
space, and has added them to those read before; names stay distinct. The induction is on the
rounds, one setting a round (`entries_round`). -/
theorem entries_parse_eq_ok {next : State} {doc' : Document} :
    ∀ (rounds : Nat) (doc : Document) (st : State), (doc.map Prod.fst).Nodup →
      (entries rounds doc).parse st = .ok doc' next →
      next.input = [] ∧ (doc'.map Prod.fst).Nodup ∧
        ∃ items : List (SettingText × Text), (∀ i ∈ items, i.2.all Text.isSpace = true) ∧
          st.input = itemsText items ∧ doc' = doc ++ itemsDocument items := by
  intro rounds
  induction rounds with
  | zero =>
    intro doc st hnodup h
    by_cases hne : st.input = []
    · obtain ⟨input, pos⟩ := st
      simp only at hne
      subst hne
      rw [entries_parse_nil] at h
      cases h
      exact ⟨rfl, hnodup, [], by simp, rfl, by simp [itemsDocument]⟩
    · rw [entries_zero_parse hne] at h
      cases h
  | succ rounds ih =>
    intro doc st hnodup h
    rcases entries_round doc st with ⟨hnil, hend⟩ | ⟨e, hfail⟩ | ⟨x, -, hraise⟩ |
        ⟨e, mid, w, after, hs, hb, hfresh, hnext⟩
    · rw [hend] at h
      cases h
      exact ⟨hnil, hnodup, [], by simp, hnil, by simp [itemsDocument]⟩
    · rw [hfail] at h
      cases h
    · rw [hraise] at h
      cases h
    · -- the setting read this round goes first, and the rounds after it read the rest
      have hnodup' : ((doc ++ [(e.name, e.value)]).map Prod.fst).Nodup := by
        rw [List.map_append, List.nodup_append]
        refine ⟨hnodup, by simp, fun a ha b hb hab => ?_⟩
        simp only [List.map_cons, List.map_nil, List.mem_singleton] at hb
        rw [hab, hb] at ha
        exact hfresh ha
      rw [hnext] at h
      obtain ⟨hrest, hnodupAll, items, hspace, hinput, hdoc⟩ := ih _ after hnodup' h
      obtain ⟨s, hsInput, rfl⟩ := setting_parse_eq_ok hs
      obtain ⟨hmid, hall, -⟩ := span_parse_eq_ok _ hb
      refine ⟨hrest, hnodupAll, (s, w) :: items, ?_, ?_, ?_⟩
      · intro i hi
        rcases List.mem_cons.mp hi with rfl | hi
        · exact List.all_eq_true.mpr hall
        · exact hspace i hi
      · rw [hsInput, hmid, hinput]
        simp [itemsText]
      · rw [hdoc]
        simp [itemsDocument]

/-- What a text that reads is: white space, then settings, each followed by white space, and no
setting spans two lines. It reads as those settings in order, their names distinct, and the
whole text is read. The white space between settings need hold no newline, so a line may hold
more than one setting. -/
theorem read_eq_ok_layout {s : Text} {doc : Document} {rest : State} (h : read s = .ok doc rest) :
    rest.input = [] ∧ (doc.map Prod.fst).Nodup ∧
      ∃ (lead : Text) (items : List (SettingText × Text)),
        lead.all Text.isSpace = true ∧ (∀ i ∈ items, i.2.all Text.isSpace = true) ∧
        (∀ i ∈ items, ('\n' : CodePoint) ∉ i.1.text) ∧
        s = lead ++ itemsText items ∧ doc = itemsDocument items := by
  rw [read_eq_entries_dropWhile] at h
  obtain ⟨hrest, hnodup, items, hspace, hinput, hdoc⟩ :=
    entries_parse_eq_ok _ [] _ List.nodup_nil h
  refine ⟨hrest, hnodup, s.takeWhile Text.isSpace, items, List.all_takeWhile, hspace,
    fun i _ => i.1.newline_not_mem, ?_, hdoc⟩
  rw [← hinput, List.takeWhile_append_dropWhile]

example : read "a = 1 b = 2" = .ok [("a", .number 1), ("b", .number 2)] ⟨[], ⟨1, 12, 11⟩⟩ := by
  decide +kernel

end Settings

end ParserCombinators
