import ParserCombinators.Proofs.InStep
import ParserCombinators.Proofs.Recognisers
import ParserCombinators.Proofs.SettingsGrammar
/-!
Faults of the settings grammar. The recognisers the grammar is made of never fault, and what they
read lies in the input, so the only fault a part of the grammar stops with is that of reading as
a number a run of digits it found in its input (`NumeralFault`): the fault of the digit limit, or
of an invalid literal. A run of decimal digits is refused only when it is longer than the digit
limit; a digit that is not a decimal digit, such as a superscript, passes the grammar's test for
digits and is then refused as an invalid literal.

Main statements: `setting_faultsOnNumerals` (every fault of a setting is that of a numeral in its
input) and `setting_parse_of_refused_numeral` (a setting whose numeral is refused faults).
-/

namespace ParserCombinators

namespace Settings

open ParserCombinators.Parser

/-! ### Refusing a numeral -/

/-- Reading a non-empty numeral is refused for one of two reasons: a leading run of decimal digits
longer than the limit, or a character that is no decimal digit. -/
theorem readDecimal_eq_error {t : Text} {x : Fault} (hne : t ≠ [])
    (h : Text.readDecimal t = .error x) :
    (Fault.digitLimit < (t.takeWhile Text.isDecimal).length ∧
        x = .tooManyDigits (t.takeWhile Text.isDecimal).length) ∨
      (t.all Text.isDecimal = false ∧ x = .invalidLiteral t) := by
  rw [readDecimal_of_ne_nil hne] at h
  by_cases hlong : Fault.digitLimit < (t.takeWhile Text.isDecimal).length
  · rw [if_pos hlong] at h
    exact .inl ⟨hlong, (Except.error.inj h).symm⟩
  · by_cases hall : t.all Text.isDecimal = true
    · rw [if_neg hlong, if_pos hall] at h
      cases h
    · rw [if_neg hlong, if_neg hall] at h
      exact .inr ⟨Bool.eq_false_iff.mpr hall, (Except.error.inj h).symm⟩

/-! ### Faults on numerals -/

/-- `x` is the fault of reading as a number a non-empty run of digits found in `t`. -/
def NumeralFault (t : Text) (x : Fault) : Prop :=
  ∃ numeral, numeral <:+: t ∧ numeral ≠ [] ∧ (∀ c ∈ numeral, Text.isDigit c = true) ∧
    Text.readDecimal numeral = .error x

theorem NumeralFault.of_isInfix {t u : Text} {x : Fault} (h : NumeralFault t x)
    (htu : t <:+: u) : NumeralFault u x := by
  obtain ⟨numeral, hin, hne, hdigits, hread⟩ := h
  exact ⟨numeral, hin.trans htu, hne, hdigits, hread⟩

theorem NumeralFault.of_reaches {st next : State} {x : Fault} (h : NumeralFault next.input x)
    (hreach : st.Reaches next) : NumeralFault st.input x := by
  obtain ⟨read, hinput, -⟩ := hreach
  exact h.of_isInfix (hinput ▸ (List.suffix_append read next.input).isInfix)

theorem NumeralFault.refused {t : Text} {x : Fault} (h : NumeralFault t x) :
    ∃ numeral, numeral <:+: t ∧ numeral ≠ [] ∧ (∀ c ∈ numeral, Text.isDigit c = true) ∧
      ((Fault.digitLimit < (numeral.takeWhile Text.isDecimal).length ∧
          x = .tooManyDigits (numeral.takeWhile Text.isDecimal).length) ∨
        (numeral.all Text.isDecimal = false ∧ x = .invalidLiteral numeral)) := by
  obtain ⟨numeral, hin, hne, hdigits, hread⟩ := h
  exact ⟨numeral, hin, hne, hdigits, readDecimal_eq_error hne hread⟩

/-- The faults of reading a numeral are those of the digit limit and of an invalid literal; in
particular none is the fault of a loop that ran out of rounds. -/
theorem NumeralFault.ne_endlessLoop {t : Text} {x : Fault} (h : NumeralFault t x) :
    x ≠ .endlessLoop := by
  obtain ⟨numeral, -, hne, -, hread⟩ := h
  rcases readDecimal_eq_error hne hread with ⟨-, rfl⟩ | ⟨-, rfl⟩ <;> exact nofun

/-- Every fault of the parser is that of a numeral in the input it ran on. -/
def FaultsOnNumerals (p : Parser α) : Prop :=
  ∀ st x, p.parse st = .raised x → NumeralFault st.input x

theorem satisfy_faultsOnNumerals (pred : CodePoint → Bool) (desc : Text) :
    FaultsOnNumerals (satisfy pred desc) :=
  fun st x h => absurd h (satisfy_parse_ne_raised pred desc st x)

theorem span_faultsOnNumerals (pred : CodePoint → Bool) (desc : Text) :
    FaultsOnNumerals (span pred desc) := by
  intro st x h
  rw [span_parse] at h
  cases h

/-- A sequence faults on numerals when both its parts do: what follows the first parser runs on
what is left of the input, and a numeral found there lies in the input. -/
theorem FaultsOnNumerals.flatMap {p : Parser α} {f : α → Parser β} (hp : FaultsOnNumerals p)
    (hstep : p.InStep) (hf : ∀ v, FaultsOnNumerals (f v)) : FaultsOnNumerals (p.flatMap f) := by
  intro st x h
  rcases flatMap_parse_eq_raised h with hx | ⟨v, mid, hv, hmid⟩
  · exact hp st x hx
  · exact (hf v mid x hmid).of_reaches (hstep.reaches_of_parse_eq_ok hv)

theorem FaultsOnNumerals.map {p : Parser α} (hp : FaultsOnNumerals p) (g : α → β) :
    FaultsOnNumerals (p.map g) :=
  fun st x h => hp st x (map_parse_eq_raised h)

theorem FaultsOnNumerals.error {p : Parser α} (hp : FaultsOnNumerals p) (message : Text) :
    FaultsOnNumerals (p.error message) :=
  fun st x h => hp st x (error_parse_eq_raised h)

theorem lexeme_faultsOnNumerals {p : Parser α} (hp : FaultsOnNumerals p) (hbuilt : p.Built) :
    FaultsOnNumerals (lexeme p) :=
  hp.flatMap hbuilt.inStep fun _ => (span_faultsOnNumerals _ _).map _

theorem identifier_faultsOnNumerals : FaultsOnNumerals identifier :=
  (satisfy_faultsOnNumerals _ _).flatMap (Built.satisfy _ _).inStep
    fun _ => (span_faultsOnNumerals _ _).map _

/-- A value faults only on the numeral it reads: its first digit and the digits after it, which
stand at the front of its input. A quoted text is read by recognisers alone. -/
theorem value_faultsOnNumerals : FaultsOnNumerals value := by
  intro st x h
  rcases flatMap_parse_eq_raised h with hfirst | ⟨first, mid, hfirst, hrest⟩
  · exact absurd hfirst (satisfy_parse_ne_raised _ _ st x)
  obtain ⟨hinput, hpred, -⟩ := satisfy_parse_eq_ok _ hfirst
  have hmid : mid.input <:+: st.input := hinput ▸ (List.suffix_cons first mid.input).isInfix
  by_cases hquote : (first == '"') = true
  · have hquoted : FaultsOnNumerals (quotedBody.flatMap fun body =>
        ((char '"').error "unterminated string").map fun _ => SettingValue.text body) :=
      (span_faultsOnNumerals _ _).flatMap (Built.span _ _).inStep
        fun _ => ((satisfy_faultsOnNumerals _ _).error _).map _
    simp only [hquote, if_true] at hrest
    exact (hquoted mid x hrest).of_isInfix hmid
  · simp only [hquote, Bool.false_eq_true, if_false] at hrest
    rcases tryMap_parse_eq_raised hrest with hspan | ⟨rest, next, hspan, hread⟩
    · exact absurd hspan (by rw [span_parse]; exact nofun)
    obtain ⟨hdigits, hall, -⟩ := span_parse_eq_ok _ hspan
    have hnumeral : Text.readDecimal (first :: rest) = .error x := by
      cases hr : Text.readDecimal (first :: rest) <;> simp_all [Except.map]
    have hfirstDigit : Text.isDigit first = true := by
      simpa [hquote] using hpred
    refine ⟨first :: rest, ?_, List.cons_ne_nil _ _, ?_, hnumeral⟩
    · exact List.IsPrefix.isInfix ⟨next.input, by rw [hinput, hdigits, List.cons_append]⟩
    · intro c hc
      rcases List.mem_cons.mp hc with rfl | hc
      · exact hfirstDigit
      · exact hall c hc

theorem setting_faultsOnNumerals : FaultsOnNumerals setting :=
  (lexeme_faultsOnNumerals identifier_faultsOnNumerals identifier_built).flatMap
    (lexeme_built identifier_built).inStep fun _ =>
      ((lexeme_faultsOnNumerals (satisfy_faultsOnNumerals _ _) (.satisfy _ _)).error _).flatMap
        (Built.error _ (lexeme_built (.satisfy _ _))).inStep fun _ =>
          (lexeme_faultsOnNumerals value_faultsOnNumerals value_built).map _

/-! ### Settings whose numeral is refused -/

/-- A setting whose value is a run of digits that reading as a number refuses stops with that
refusal. -/
theorem setting_parse_of_refused_numeral {name before after numeral rest : Text} {x : Fault}
    (hname : isName name = true) (hbefore : before.all isBlank = true)
    (hafter : after.all isBlank = true) (hne : numeral ≠ [])
    (hdigits : ∀ c ∈ numeral, Text.isDigit c = true)
    (hrest : ∀ c ∈ rest.head?, Text.isDigit c = false) (hread : Text.readDecimal numeral = .error x)
    (pos : SourcePos) :
    setting.parse ⟨name ++ before ++ "=" ++ after ++ (numeral ++ rest), pos⟩ = .raised x := by
  -- the value starts with a digit, so the spaces and tabs after the equals sign stop before it
  have hhead : ∀ c ∈ (numeral ++ rest).head?, isBlank c = false := by
    obtain _ | ⟨d, ds⟩ := numeral
    · exact absurd rfl hne
    intro c hc
    obtain rfl : d = c := by simpa using hc
    have hdigit : Text.isDigit d = true := hdigits d List.mem_cons_self
    cases hb : isBlank d
    · rfl
    · exact absurd hdigit (by simp [isDigit_of_isBlank hb])
  have hvalue : value.parse ⟨numeral ++ rest, pos.advance (name ++ before ++ "=" ++ after)⟩ =
      .raised x := by
    rw [value_parse_numeral hne (List.all_eq_true.mpr hdigits) hrest, hread]
  rw [setting_parse_after_equals hname hbefore hafter hhead,
    map_parse_of_raised (lexeme_parse_of_raised hvalue)]

end Settings

end ParserCombinators
