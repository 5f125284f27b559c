import ParserCombinators.Proofs.Consume
import ParserCombinators.Proofs.Sequencing
/-!
A literal read whole or one code point at a time. `string s` tests once whether the input starts
with `s` and advances the position over all of `s` in one pass; reading the code points of `s` in
turn with `char`, as a routine or as the chain of `flatMap`s it spells out (`charByChar`),
advances it one code point per step. The two succeed on the same states, since the input starts
with `c :: cs` exactly when it starts with `c` and the rest starts with `cs`, and they reach the
same state, since advancing over `c` and then over `cs` is advancing over `c :: cs`. The literal
returns itself and the steps return their code points one after another, which make up the
literal again. Where the literal fails, it fails where it stands, naming what it found and
accepting the quoted literal.

Main statement: `string_eq_char_by_char`.
-/

namespace ParserCombinators

namespace Parser

/-- Reads the code points of a text one at a time with `char`, each from the state the one
before left, and finishes with the code points read after those already `read`. -/
def charByChar (read : Text) : Text → Routine CodePoint (Ending Text)
  | [] => .finish (.value read)
  | c :: cs => .await (char c) fun v => charByChar (read ++ [v]) cs

theorem char_override (c : CodePoint) : (char c).override = none := rfl

theorem char_parse_cons_self (c : CodePoint) (rest : Text) (pos : SourcePos) :
    (char c).parse ⟨c :: rest, pos⟩ = .ok c ⟨rest, pos.advance [c]⟩ :=
  satisfy_parse_of_pred _ _ c rest pos (beq_self_eq_true c)

theorem char_parse_of_not_isPrefix {c : CodePoint} {st : State} (h : ¬ [c] <+: st.input) :
    ∃ e, (char c).parse st = .failed e := by
  obtain ⟨input, pos⟩ := st
  cases input with
  | nil => exact ⟨_, satisfy_parse_nil _ _ pos⟩
  | cons d rest =>
    have hd : (d == c) = false := by
      rw [beq_eq_false_iff_ne]
      rintro rfl
      exact h ⟨rest, rfl⟩
    refine ⟨⟨"unexpected " ++ Text.quoteChar d, [Text.quoteChar c], pos⟩, ?_⟩
    simp only [char, satisfy, hd, Bool.false_eq_true, if_false]

theorem string_parse_of_isPrefix {s : Text} {st : State} (h : s <+: st.input) :
    (string s).parse st = .ok s ⟨st.input.drop s.length, st.pos.advance s⟩ := by
  simp only [string, h, if_true, Reply.succeed, State.consume_of_isPrefix h]

theorem string_parse_of_not_isPrefix {s : Text} {st : State} (h : ¬ s <+: st.input) :
    (string s).parse st = .failed ⟨mismatch (st.input.take s.length), [Text.quote s], st.pos⟩ := by
  simp only [string, h, if_false]

/-- Reading a text the input starts with one code point at a time reaches the state `string`
reaches: each step drops one code point and advances over it, and the steps together advance
over the whole text. -/
theorem gen_charByChar_parse_of_isPrefix (read : Text) {s : Text} {st : State}
    (h : s <+: st.input) :
    (gen (charByChar read s)).parse st =
      .ok (read ++ s) ⟨st.input.drop s.length, st.pos.advance s⟩ := by
  induction s generalizing read st with
  | nil =>
    simp only [charByChar, List.append_nil, List.length_nil, List.drop_zero,
      SourcePos.advance_nil]
    rfl
  | cons c cs ih =>
    obtain ⟨input, pos⟩ := st
    obtain ⟨rest, hrest⟩ := h
    subst hrest
    have hcs : cs <+: cs ++ rest := List.prefix_append cs rest
    rw [List.cons_append, charByChar,
      gen_await_parse_of_ok (char_parse_cons_self c (cs ++ rest) pos), ih (read ++ [c]) hcs]
    simp only [List.append_assoc, List.length_cons, List.cons_append, List.nil_append,
      List.drop_succ_cons, SourcePos.advance_append]

theorem gen_charByChar_parse_of_not_isPrefix (read : Text) {s : Text} {st : State}
    (h : ¬ s <+: st.input) : ∃ e, (gen (charByChar read s)).parse st = .failed e := by
  induction s generalizing read st with
  | nil => exact absurd List.nil_prefix h
  | cons c cs ih =>
    by_cases hc : [c] <+: st.input
    · obtain ⟨rest, hrest⟩ := hc
      obtain ⟨input, pos⟩ := st
      simp only at hrest
      subst hrest
      have hcs : ¬ cs <+: rest := fun hcs => h (List.prefix_cons_inj c |>.mpr hcs)
      rw [charByChar, List.singleton_append,
        gen_await_parse_of_ok (char_parse_cons_self c rest pos)]
      exact ih (read ++ [c]) hcs
    · obtain ⟨e, he⟩ := char_parse_of_not_isPrefix hc
      have hadj : (char c).adjust ((char c).parse st) = .failed e := by
        rw [adjust_parse_of_none (char_override c), he]
      exact ⟨e, by rw [charByChar, gen_await_parse_of_failed hadj]⟩

/-- `string s` is reading the code points of `s` one at a time with `char`, as a routine or as the
chain of `flatMap`s it spells out, on every state. Both succeed exactly when the input starts with
`s`, and then both give `s` (the code points read, one after another, make up `s`) and reach the
state with `s` dropped from the input and the position advanced over it. Otherwise `string s`
fails where it stands, naming what it found and accepting the quoted literal, and reading code
point by code point fails too. -/
theorem string_eq_char_by_char (s : Text) (st : State) :
    (gen (charByChar [] s)).parse st = (charByChar [] s).chain.parse st ∧
    ((∃ v st', (string s).parse st = .ok v st') ↔
      ∃ v st', (gen (charByChar [] s)).parse st = .ok v st') ∧
    (s <+: st.input →
      (string s).parse st = .ok s ⟨st.input.drop s.length, st.pos.advance s⟩ ∧
      (gen (charByChar [] s)).parse st = .ok s ⟨st.input.drop s.length, st.pos.advance s⟩) ∧
    (¬ s <+: st.input →
      (string s).parse st = .failed ⟨mismatch (st.input.take s.length), [Text.quote s], st.pos⟩ ∧
      ∃ e, (gen (charByChar [] s)).parse st = .failed e) := by
  have hok : s <+: st.input →
      (string s).parse st = .ok s ⟨st.input.drop s.length, st.pos.advance s⟩ ∧
      (gen (charByChar [] s)).parse st = .ok s ⟨st.input.drop s.length, st.pos.advance s⟩ :=
    fun h => ⟨string_parse_of_isPrefix h, gen_charByChar_parse_of_isPrefix [] h⟩
  have hfail : ¬ s <+: st.input →
      (string s).parse st = .failed ⟨mismatch (st.input.take s.length), [Text.quote s], st.pos⟩ ∧
      ∃ e, (gen (charByChar [] s)).parse st = .failed e :=
    fun h => ⟨string_parse_of_not_isPrefix h, gen_charByChar_parse_of_not_isPrefix [] h⟩
  refine ⟨gen_parse_eq_chain _ st, ?_, hok, hfail⟩
  -- both succeed exactly on the states whose input starts with `s`
  by_cases h : s <+: st.input
  · obtain ⟨hstring, hchars⟩ := hok h
    exact ⟨fun _ => ⟨_, _, hchars⟩, fun _ => ⟨_, _, hstring⟩⟩
  · obtain ⟨hstring, e, hchars⟩ := hfail h
    constructor <;> rintro ⟨v, st', hv⟩
    · rw [hstring] at hv
      cases hv
    · rw [hchars] at hv
      cases hv

/-- `ab` read whole or code point by code point from the start of `abc`, and failing on `ax`. -/
theorem string_ab_char_by_char :
    let st : State := State.initial "abc"
    let st' : State := State.initial "ax"
    ("ab" : Text) <+: st.input ∧ ¬ ("ab" : Text) <+: st'.input ∧
      (string "ab").parse st = .ok "ab" ⟨"c", ⟨1, 3, 2⟩⟩ ∧
      (gen (charByChar [] "ab")).parse st = .ok "ab" ⟨"c", ⟨1, 3, 2⟩⟩ ∧
      (string "ab").parse st' = .failed ⟨"unexpected 'ax'", ["'ab'"], SourcePos.start⟩ := by
  intro st st'
  have hst : ("ab" : Text) <+: st.input := by decide
  have hst' : ¬ ("ab" : Text) <+: st'.input := by decide
  obtain ⟨hstring, hchars⟩ := (string_eq_char_by_char "ab" st).2.2.1 hst
  refine ⟨hst, hst', ?_, ?_, ?_⟩
  · rw [hstring]
    rfl
  · rw [hchars]
    rfl
  · rw [((string_eq_char_by_char "ab" st').2.2.2 hst').1]
    rfl

end Parser

end ParserCombinators
