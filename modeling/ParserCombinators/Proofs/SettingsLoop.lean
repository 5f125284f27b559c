import ParserCombinators.Proofs.Render
import ParserCombinators.Proofs.SettingsDocument
import ParserCombinators.Proofs.SettingsFaults
/-!
The settings loop. A reading skips the white space at the front of the text and then reads one
setting a round: a round ends the loop at the end of the input, with a failure, or with the fault
of its setting, and otherwise hands the next round what is left after the setting and the white
space that follows it (`entries_round`). A setting reads at least the first character of its
name, so what is left gets shorter from round to round.

The loop is given a budget of rounds, and a budget of as many rounds as the input has characters
is never used up: more rounds change nothing (`entries_parse_add_rounds`), and every fault of the
loop is the fault of a setting it reads (`entries_parse_raised`), which is that of a numeral.

Main statements: `read_ends_within_rounds` (the loop ends within its budget) and
`read_faults_on_refused_numerals` (a reading stops with a fault only where a run of digits in the
text is refused as a number: a leading run of decimal digits beyond the digit limit, or a digit
that is no decimal digit, such as a superscript; and a text that starts with such a setting does
stop so).
-/

namespace ParserCombinators

namespace Settings

open ParserCombinators.Parser

/-! ### Each round reads something -/

/-- A parser that reads at least one character whenever it succeeds. -/
def ReadsSome (p : Parser α) : Prop :=
  ∀ st v next, p.parse st = .ok v next → next.input.length < st.input.length

theorem satisfy_readsSome (pred : CodePoint → Bool) (desc : Text) :
    ReadsSome (satisfy pred desc) := by
  intro st c next h
  rw [(satisfy_parse_eq_ok pred h).1, List.length_cons]
  exact Nat.lt_succ_self _

theorem ReadsSome.flatMap {p : Parser α} {f : α → Parser β} (hp : ReadsSome p)
    (hf : ∀ v, (f v).InStep) : ReadsSome (p.flatMap f) := by
  intro st w next h
  obtain ⟨v, mid, hv, hnext⟩ := flatMap_parse_eq_ok h
  exact Nat.lt_of_le_of_lt ((hf v).reaches_of_parse_eq_ok hnext).length_le (hp st v mid hv)

/-- A setting reads at least the first character of its name. -/
theorem setting_readsSome : ReadsSome setting :=
  have hidentifier : ReadsSome identifier :=
    (satisfy_readsSome _ _).flatMap fun _ => (Built.tryMap _ (.span _ _)).inStep
  (hidentifier.flatMap fun _ => (Built.tryMap _ (.span _ _)).inStep).flatMap fun _ =>
    (Built.flatMap (.error _ (lexeme_built (.satisfy _ _)))
      fun _ => .tryMap _ (lexeme_built value_built)).inStep

/-- After a setting and the white space that follows it, a round has read a part of its input
and left a shorter one. -/
theorem round_reaches {st mid next : State} {e : Entry} {w : Text}
    (hs : setting.parse st = .ok e mid) (hb : blankLines.parse mid = .ok w next) :
    st.Reaches next ∧ next.input.length < st.input.length := by
  have hsetting : st.Reaches mid := setting_built.inStep.reaches_of_parse_eq_ok hs
  have hblank : mid.Reaches next :=
    (Built.span Text.isSpace "blank lines").inStep.reaches_of_parse_eq_ok hb
  exact ⟨hsetting.trans hblank,
    Nat.lt_of_le_of_lt hblank.length_le (setting_readsSome st e mid hs)⟩

/-! ### One round -/

theorem entries_parse_of_setting_failed {input : Text} (hne : input ≠ []) {pos : SourcePos}
    {e : ParseError} (hs : setting.parse ⟨input, pos⟩ = .failed e) (rounds : Nat)
    (doc : Document) :
    (entries (rounds + 1) doc).parse ⟨input, pos⟩ = .failed e := by
  have hfailed : setting.adjust (setting.parse ⟨input, pos⟩) = .failed e := by
    rw [hs]
    exact adjust_failed_of_none _ rfl e
  rw [entries_succ_parse hne, flatMap_parse_of_failed hfailed]

/-- A loop with no rounds left on input that is left stops with the fault of its budget. -/
theorem entries_zero_parse {st : State} (hne : st.input ≠ []) (doc : Document) :
    (entries 0 doc).parse st = .raised .endlessLoop := by
  have hempty : st.input.isEmpty = false := List.isEmpty_eq_false_iff.mpr hne
  rw [entries, flatMap_parse_of_ok (peek_parse _)]
  simp only [hempty, Bool.false_eq_true, if_false]
  rfl

/-- One round of the loop on a state, with the settings `doc` read before. At the end of the
input the loop ends with `doc`. Otherwise the round reads a setting and ends the loop with a
failure (of the setting, or for a name read before) or with the fault of the setting, or it reads
the white space after a new setting and hands the next round what is left. None of this depends
on how many rounds are left, as long as one is. -/
theorem entries_round (doc : Document) (st : State) :
    (st.input = [] ∧ ∀ r, (entries r doc).parse st = .ok doc st) ∨
    (∃ e, ∀ r, (entries (r + 1) doc).parse st = .failed e) ∨
    (∃ x, setting.parse st = .raised x ∧ ∀ r, (entries (r + 1) doc).parse st = .raised x) ∨
    ∃ e mid w next, setting.parse st = .ok e mid ∧ blankLines.parse mid = .ok w next ∧
      e.name ∉ doc.map Prod.fst ∧
      ∀ r, (entries (r + 1) doc).parse st = (entries r (doc ++ [(e.name, e.value)])).parse next := by
  obtain ⟨input, pos⟩ := st
  by_cases hne : input = []
  · subst hne
    exact .inl ⟨rfl, fun r => entries_parse_nil r doc pos⟩
  cases hs : setting.parse ⟨input, pos⟩ with
  | ok e mid =>
    by_cases hdup : e.name ∈ doc.map Prod.fst
    · refine .inr (.inl ⟨⟨duplicateMessage e.name, [], mid.pos⟩, fun r => ?_⟩)
      rw [entries_parse_of_setting_ok hne hs, if_pos hdup]
    · have hblank := span_parse Text.isSpace "blank lines" mid
      refine .inr (.inr (.inr ⟨e, mid, _, _, rfl, hblank, hdup, fun r => ?_⟩))
      rw [entries_parse_of_setting_ok hne hs, if_neg hdup, blankLines, flatMap_parse_of_ok hblank]
  | failed e => exact .inr (.inl ⟨e, fun r => entries_parse_of_setting_failed hne hs r doc⟩)
  | raised x =>
    exact .inr (.inr (.inl ⟨x, rfl, fun r => entries_parse_of_setting_raised hne hs r doc⟩))

/-! ### Every round -/

/-- Given at least as many rounds as the input has characters, the loop never runs out of them:
further rounds change nothing. The induction is on the rounds; a round that goes on hands the
next one a shorter input (`round_reaches`), so the budget stays ahead of the input. -/
theorem entries_parse_add_rounds (k : Nat) :
    ∀ (rounds : Nat) (doc : Document) (st : State), st.input.length ≤ rounds →
      (entries (rounds + k) doc).parse st = (entries rounds doc).parse st := by
  intro rounds
  induction rounds with
  | zero =>
    intro doc st hlen
    obtain ⟨input, pos⟩ := st
    obtain rfl : input = [] := List.eq_nil_of_length_eq_zero (Nat.le_zero.mp hlen)
    rw [entries_parse_nil, entries_parse_nil]
  | succ rounds ih =>
    intro doc st hlen
    rw [Nat.add_right_comm]
    rcases entries_round doc st with ⟨-, hend⟩ | ⟨e, hfail⟩ | ⟨x, -, hraise⟩ |
        ⟨e, mid, w, next, hs, hb, -, hnext⟩
    · rw [hend, hend]
    · rw [hfail, hfail]
    · rw [hraise, hraise]
    · have hshort := (round_reaches hs hb).2
      rw [hnext, hnext, ih _ next (by omega)]

/-- Given rounds enough, every fault of the loop is the fault of a setting it reads, on what is
left of its input there. -/
theorem entries_parse_raised {x : Fault} :
    ∀ (rounds : Nat) (doc : Document) (st : State), st.input.length ≤ rounds →
      (entries rounds doc).parse st = .raised x → ∃ mid, st.Reaches mid ∧ setting.parse mid = .raised x := by
  intro rounds
  induction rounds with
  | zero =>
    intro doc st hlen h
    obtain ⟨input, pos⟩ := st
    obtain rfl : input = [] := List.eq_nil_of_length_eq_zero (Nat.le_zero.mp hlen)
    rw [entries_parse_nil] at h
    cases h
  | succ rounds ih =>
    intro doc st hlen h
    rcases entries_round doc st with ⟨-, hend⟩ | ⟨e, hfail⟩ | ⟨y, hs, hraise⟩ |
        ⟨e, mid, w, next, hs, hb, -, hnext⟩
    · rw [hend] at h
      cases h
    · rw [hfail] at h
      cases h
    · rw [hraise] at h
      cases h
      exact ⟨st, .refl st, hs⟩
    · obtain ⟨hreach, hshort⟩ := round_reaches hs hb
      rw [hnext] at h
      obtain ⟨at', hat, hfault⟩ := ih _ next (by omega) h
      exact ⟨at', hreach.trans hat, hfault⟩

/-! ### A whole reading -/

/-- A reading starts the loop after the white space at the front of the text, with one round more
than what is left has characters. -/
theorem read_eq_entries_dropWhile (s : Text) :
    read s = (entries ((s.dropWhile Text.isSpace).length + 1) []).parse
      ⟨s.dropWhile Text.isSpace, SourcePos.start.advance (s.takeWhile Text.isSpace)⟩ := by
  have hlead : blankLines.parse (State.initial s) = .ok (s.takeWhile Text.isSpace)
      ⟨s.dropWhile Text.isSpace, SourcePos.start.advance (s.takeWhile Text.isSpace)⟩ := by
    rw [blankLines, span_parse, State.initial, drop_length_takeWhile]
  rw [read, run, adjust_parse_of_none rfl, document, named_parse, flatMap_parse_of_ok hlead,
    flatMap_parse_of_ok (peek_parse _)]

theorem read_cons_eq_entries {c : CodePoint} (t : Text) (hc : Text.isSpace c = false) :
    read (c :: t) = (entries ((c :: t).length + 1) []).parse ⟨c :: t, SourcePos.start⟩ := by
  have hneg : ¬ Text.isSpace c = true := by simp [hc]
  rw [read_eq_entries_dropWhile, List.dropWhile_cons_of_neg hneg,
    List.takeWhile_cons_of_neg hneg, SourcePos.advance_nil]

/-- The settings loop ends within its rounds. A setting reads at least the first character of its
name, so each round that goes on hands the next a shorter input; any budget of as many rounds as
the text has characters after its leading white space lets the loop run to its end, in at most
one round more than that. Every such budget gives the reply of `read`, and the budget is never
what stops a reading. -/
theorem read_ends_within_rounds :
    (∀ st e next, setting.parse st = .ok e next → next.input.length < st.input.length) ∧
    ∀ s, read s ≠ .raised .endlessLoop ∧
      ∀ rounds, (s.dropWhile Text.isSpace).length ≤ rounds →
        read s = (entries rounds []).parse
          ⟨s.dropWhile Text.isSpace, SourcePos.start.advance (s.takeWhile Text.isSpace)⟩ := by
  refine ⟨setting_readsSome, fun s => ⟨fun h => ?_, fun rounds hrounds => ?_⟩⟩
  · -- the fault would be that of a setting, which faults only on numerals
    rw [read_eq_entries_dropWhile] at h
    obtain ⟨mid, -, hmid⟩ := entries_parse_raised _ [] _ (Nat.le_succ _) h
    exact (setting_faultsOnNumerals mid _ hmid).ne_endlessLoop rfl
  · obtain ⟨k, rfl⟩ := Nat.exists_eq_add_of_le hrounds
    let L := (s.dropWhile Text.isSpace).length
    rw [read_eq_entries_dropWhile, entries_parse_add_rounds 1 L [] _ (Nat.le_refl _),
      entries_parse_add_rounds k L [] _ (Nat.le_refl _)]

/-! ### What a reading and the command stop with -/

theorem read_raised {s : Text} {x : Fault} (h : read s = .raised x) : NumeralFault s x := by
  rw [read_eq_entries_dropWhile] at h
  obtain ⟨mid, hreach, hmid⟩ := entries_parse_raised _ [] _ (Nat.le_succ _) h
  have hrest : s.dropWhile Text.isSpace <:+: s := (List.dropWhile_suffix Text.isSpace).isInfix
  exact ((setting_faultsOnNumerals mid x hmid).of_reaches hreach).of_isInfix hrest

/-- The settings command faults only where its reading faults, or on an error that it cannot
render: that needs a text too long for memory. -/
theorem command_eq_error {s : Text} {x : Fault} (h : command s = .error x) :
    read s = .raised x ∨ ParseError.memoryBound ≤ (s.length : Int) := by
  cases hread : read s with
  | ok doc rest => simp [command, hread] at h
  | failed e =>
    by_cases hfits : (s.length : Int) < ParseError.memoryBound
    · rw [command_of_read_failed hfits hread] at h
      cases h
    · exact .inr (Int.not_lt.mp hfits)
  | raised y =>
    simp only [command, hread] at h
    cases h
    exact .inl rfl

/-- A text that starts with a setting whose value is a run of digits refused as a number stops
the reading with that refusal. -/
theorem read_of_refused_numeral {name before after numeral rest : Text} {x : Fault}
    (hname : isName name = true) (hbefore : before.all isBlank = true)
    (hafter : after.all isBlank = true) (hne : numeral ≠ [])
    (hdigits : ∀ c ∈ numeral, Text.isDigit c = true)
    (hrest : ∀ c ∈ rest.head?, Text.isDigit c = false) (hread : Text.readDecimal numeral = .error x) :
    read (name ++ before ++ "=" ++ after ++ (numeral ++ rest)) = .raised x := by
  have hsetting := setting_parse_of_refused_numeral hname hbefore hafter hne hdigits hrest hread
    SourcePos.start
  obtain _ | ⟨c, cs⟩ := name
  · cases hname
  -- the name's first character is no white space, so the loop starts on the whole text
  have hstart : isNameStart c = true := by
    simp only [isName, Bool.and_eq_true] at hname
    exact hname.1
  simp only [List.cons_append] at hsetting ⊢
  rw [read_cons_eq_entries _ (stops_of_isNameStart hstart).2.2]
  exact entries_parse_of_setting_raised (List.cons_ne_nil _ _) hsetting _ _

/-- A reading of `s` stops with a fault only where a run of digits in `s` is refused as a number:
its leading run of decimal digits is longer than the digit limit, or it holds a digit that is no
decimal digit, such as a superscript, which passes the grammar's test for digits. The settings
command stops with the faults of the reading, and otherwise only on a text too long for memory.
When `s` starts with a setting whose numeral is refused, the reading does stop with that refusal;
and `value` replies on any run of digits exactly as reading it as a number does. -/
theorem read_faults_on_refused_numerals (s : Text) :
    (∀ x, read s = .raised x → ∃ numeral, numeral <:+: s ∧ numeral ≠ [] ∧
      (∀ c ∈ numeral, Text.isDigit c = true) ∧
      ((Fault.digitLimit < (numeral.takeWhile Text.isDecimal).length ∧
          x = .tooManyDigits (numeral.takeWhile Text.isDecimal).length) ∨
        (numeral.all Text.isDecimal = false ∧ x = .invalidLiteral numeral))) ∧
    (∀ x, read s = .raised x → command s = .error x) ∧
    (∀ x, command s = .error x →
      read s = .raised x ∨ ParseError.memoryBound ≤ (s.length : Int)) ∧
    (∀ (name before after numeral rest : Text) (x : Fault),
      s = name ++ before ++ "=" ++ after ++ (numeral ++ rest) → isName name = true →
      before.all isBlank = true → after.all isBlank = true → numeral ≠ [] →
      (∀ c ∈ numeral, Text.isDigit c = true) → (∀ c ∈ rest.head?, Text.isDigit c = false) →
      Text.readDecimal numeral = .error x → read s = .raised x) ∧
    ∀ (numeral rest : Text) (pos : SourcePos), numeral ≠ [] →
      (∀ c ∈ numeral, Text.isDigit c = true) → (∀ c ∈ rest.head?, Text.isDigit c = false) →
      value.parse ⟨numeral ++ rest, pos⟩ =
        if Fault.digitLimit < (numeral.takeWhile Text.isDecimal).length then
          .raised (.tooManyDigits (numeral.takeWhile Text.isDecimal).length)
        else if numeral.all Text.isDecimal then
          .ok (.number (Text.decimalDigitsValue numeral)) ⟨rest, pos.advance numeral⟩
        else .raised (.invalidLiteral numeral) := by
  refine ⟨fun x h => (read_raised h).refused, fun x h => ?_, fun x h => command_eq_error h,
    fun name before after numeral rest x hs hname hbefore hafter hne hdigits hrest hread => ?_,
    fun numeral rest pos hne hdigits hrest => value_parse_digits hne hdigits hrest pos⟩
  · simp only [command, h]
  · rw [hs]
    exact read_of_refused_numeral hname hbefore hafter hne hdigits hrest hread

/-- `x = ²`: the superscript two passes the grammar's test for digits and is refused as a number,
so reading it, and the settings command, stop with the fault of an invalid literal instead of
giving settings or a parse error. -/
theorem command_superscript_two_faults :
    read "x = ²" = .raised (.invalidLiteral "²") ∧
      command "x = ²" = .error (.invalidLiteral "²") := by
  have hread := @read_of_refused_numeral "x" " " " " "²" [] (.invalidLiteral "²")
    (by decide) (by decide) (by decide) (by decide) (by decide) (by decide) (by decide)
  have hsplit : ("x" ++ " " ++ "=" ++ " " ++ ("²" ++ ([] : Text)) : Text) = "x = ²" := by decide
  rw [hsplit] at hread
  exact ⟨hread, by simp only [command, hread]⟩

end Settings

end ParserCombinators
