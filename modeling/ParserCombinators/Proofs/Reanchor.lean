import ParserCombinators.Proofs.Consume
import ParserCombinators.Proofs.Sequencing
/-!
Re-anchoring the state a `transform` callback gives. The callback is trusted only for the input it
leaves: re-anchoring keeps that input when it is a suffix of the input it was given, and derives
the position by consuming what was dropped in front of it, which never faults, since a text is
always a prefix of the input it was cut from. An input that is not such a suffix is a fault, a
desynchronisation naming both positions, except that a position whose line or column has too
many digits to be written turns it into the fault of writing that number.

So after a parser succeeds, its `transform` faults exactly when the callback's input is not a
suffix of the input left; otherwise it succeeds at that input with the position derived, the
callback's own position ignored, and a callback that leaves the input as it was leaves the state
as it was. A failure of the parser, with its override put on it, is returned as it is, whatever
the callback.

Main statement: `transform_reanchors`; `transform_fault_unwritable` shows the fault of writing a
position in place of the desynchronisation.
-/

namespace ParserCombinators

namespace State

theorem reanchor_of_suffix {st next : State} (h : next.input <:+ st.input) :
    st.reanchor next =
      .ok ⟨next.input, st.pos.advance (st.input.take (st.input.length - next.input.length))⟩ := by
  obtain ⟨read, hread⟩ := h
  have htake : st.input.take (st.input.length - next.input.length) = read := by
    simp [← hread]
  have hprefix : read <+: st.input := ⟨next.input, hread⟩
  rw [reanchor, if_pos ⟨read, hread⟩, htake, consume_of_isPrefix hprefix]
  simp [← hread]

theorem reanchor_of_not_suffix {st next : State} (h : ¬ next.input <:+ st.input) :
    st.reanchor next =
      .error (if next.pos.writable && st.pos.writable then .unreachable next.pos st.pos
        else .integerTooLong) := by
  simp [reanchor, h, Fault.showing]

theorem reanchor_same_input {st next : State} (h : next.input = st.input) :
    st.reanchor next = .ok st := by
  rw [reanchor_of_suffix (h ▸ List.suffix_refl st.input), h, Nat.sub_self, List.take_zero,
    SourcePos.advance_nil]

/-- Re-anchoring faults exactly when the input is not a suffix, and otherwise it is consuming
the text dropped in front of that input, which succeeds at that input. -/
theorem reanchor_eq_consume (st next : State) :
    ((∃ x, st.reanchor next = .error x) ↔ ¬ next.input <:+ st.input) ∧
      (next.input <:+ st.input →
        st.reanchor next = st.consume (st.input.take (st.input.length - next.input.length)) ∧
          ∃ r, st.reanchor next = .ok r ∧ r.input = next.input) := by
  refine ⟨⟨?_, fun h => ⟨_, reanchor_of_not_suffix h⟩⟩, fun h => ⟨?_, _, reanchor_of_suffix h, rfl⟩⟩
  · rintro ⟨x, hx⟩ hsuffix
    rw [reanchor_of_suffix hsuffix] at hx
    cases hx
  · rw [reanchor, if_pos h]

end State

namespace Parser

variable {α β : Type} {p : Parser α} {f : α → State → Except Fault (β × State)}

section Callback

variable {st s1 t : State} {v : α} {w : β}

theorem transform_parse_of_reanchor_ok {anchored : State} (hp : p.parse st = .ok v s1)
    (hf : f v s1 = .ok (w, t)) (hr : s1.reanchor t = .ok anchored) :
    (p.transform f).parse st = .ok w anchored := by
  rw [transform_parse_of_ok hp]
  simp only [transform, pure_parse, adjust_ok, Reply.bindValue_ok, hf, hr]

theorem transform_parse_of_reanchor_error {x : Fault} (hp : p.parse st = .ok v s1)
    (hf : f v s1 = .ok (w, t)) (hr : s1.reanchor t = .error x) :
    (p.transform f).parse st = .raised x := by
  rw [transform_parse_of_ok hp]
  simp only [transform, pure_parse, adjust_ok, Reply.bindValue_ok, hf, hr]

end Callback

/-- `transform` re-anchors the state its callback gives. After the parser succeeds with `v` and
the state `s1`, and the callback gives `w` and a state `t`, it faults exactly when the input of
`t` is not a suffix of that of `s1`, with the desynchronisation of `t` and `s1` when both
positions can be written and with the fault of writing one otherwise; else it succeeds with `w`
at the input of `t` and the position of `s1` advanced over what `t` dropped, the position of `t`
ignored, and with `s1` itself when `t` keeps the input of `s1`. A failure of the parser, its
override put on it, is returned whatever the callback. Re-anchoring alone faults exactly on an
input that is not a suffix, and is otherwise consuming the dropped text, which leaves that
input. -/
theorem transform_reanchors :
    (∀ {α β : Type} (p : Parser α) (f : α → State → Except Fault (β × State)) st v s1 w t,
      p.parse st = .ok v s1 → f v s1 = .ok (w, t) →
      (p.transform f).parse st =
        if t.input <:+ s1.input then
          .ok w ⟨t.input, s1.pos.advance (s1.input.take (s1.input.length - t.input.length))⟩
        else .raised (if t.pos.writable && s1.pos.writable then .unreachable t.pos s1.pos
          else .integerTooLong)) ∧
    (∀ {α β : Type} (p : Parser α) (f : α → State → Except Fault (β × State)) st v s1 w t,
      p.parse st = .ok v s1 → f v s1 = .ok (w, t) → t.input = s1.input →
      (p.transform f).parse st = .ok w s1) ∧
    (∀ {α β : Type} (p : Parser α) st e, p.adjust (p.parse st) = .failed e →
      ∀ f : α → State → Except Fault (β × State), (p.transform f).parse st = .failed e) ∧
    (∀ st next : State,
      ((∃ x, st.reanchor next = .error x) ↔ ¬ next.input <:+ st.input) ∧
      (next.input <:+ st.input →
        st.reanchor next = st.consume (st.input.take (st.input.length - next.input.length)) ∧
          ∃ r, st.reanchor next = .ok r ∧ r.input = next.input)) := by
  refine ⟨?_, ?_, ?_, State.reanchor_eq_consume⟩
  · intro α β p f st v s1 w t hp hf
    by_cases h : t.input <:+ s1.input
    · rw [transform_parse_of_reanchor_ok hp hf (State.reanchor_of_suffix h), if_pos h]
    · rw [transform_parse_of_reanchor_error hp hf (State.reanchor_of_not_suffix h), if_neg h]
  · intro α β p f st v s1 w t hp hf hsame
    exact transform_parse_of_reanchor_ok hp hf (State.reanchor_same_input hsame)
  · intro α β p st e hfail f
    exact transform_parse_of_failed hfail f

/-- A callback that skips blanks after `a` in `a \n  b`, leaving its position stale, is re-anchored
at the second line, third column. -/
theorem transform_skips_blanks :
    let st := State.initial "a \n  b"
    let s1 : State := ⟨" \n  b", ⟨1, 2, 1⟩⟩
    let f : Text → State → Except Fault (Text × State) := fun v rest =>
      .ok (v, ⟨rest.input.dropWhile (fun c => c = ' ' || c = '\n'), rest.pos⟩)
    (string "a").parse st = .ok "a" s1 ∧ f "a" s1 = .ok ("a", ⟨"b", s1.pos⟩) ∧
      ((string "a").transform f).parse st = .ok "a" ⟨"b", ⟨2, 3, 5⟩⟩ := by
  intro st s1 f
  have hp : (string "a").parse st = .ok "a" s1 := rfl
  have hf : f "a" s1 = .ok ("a", ⟨"b", s1.pos⟩) := rfl
  refine ⟨hp, hf, ?_⟩
  rw [transform_reanchors.1 (string "a") f st _ _ _ _ hp hf, if_pos (by decide)]
  rfl

/-- From column `10 ^ 4300 - 1`, reading `x` moves the column to a number of 4301 digits; a
callback that then hands back an input that is no suffix makes `transform` fault on writing that
column, not with a desynchronisation. -/
theorem transform_fault_unwritable :
    let st : State := ⟨"xab", ⟨1, (Nat.pow 10 Fault.digitLimit : Int) - 1, 0⟩⟩
    let f : Text → State → Except Fault (Text × State) := fun v rest => .ok (v, ⟨"zzz", rest.pos⟩)
    ¬ ("zzz" : Text) <:+ "ab" ∧ ((consume "x").transform f).parse st = .raised .integerTooLong := by
  intro st f
  have hread : (consume "x").parse st = .ok "x" ⟨"ab", st.pos.advance "x"⟩ := rfl
  have hnot : ¬ ("zzz" : Text) <:+ "ab" := by decide
  -- the column after `x` has one digit more than the limit allows
  have hafter : (st.pos.advance "x").writable = false := by decide +kernel
  refine ⟨hnot, ?_⟩
  rw [transform_parse_of_reanchor_error hread rfl (State.reanchor_of_not_suffix hnot)]
  simp [hafter]

end Parser

end ParserCombinators
