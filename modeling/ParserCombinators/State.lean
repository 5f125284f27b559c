import ParserCombinators.Fault
/-!
Parser states: the input that is left and the position where it starts. Input and position move
together: consuming a text drops it from the front of the input and advances the position over
it, and a text that the input does not start with cannot be consumed. A state handed back from
outside is trusted only for its input; `State.reanchor` derives its position from the state it
was made from.

Main statements: `consume_of_prefix` (what consuming a leading text gives) and
`consume_eq_error_iff` (consuming faults exactly on a non-empty text the input does not start with).
-/

namespace ParserCombinators

structure State where
  input : Text
  pos : SourcePos := SourcePos.start
deriving DecidableEq, Repr, Inhabited

namespace State

def initial (text : Text) : State := ⟨text, SourcePos.start⟩

/-- The state after reading `text` from the front of the input. Reading nothing keeps the state;
a text that the input does not start with is a fault. -/
def consume (st : State) (text : Text) : Except Fault State :=
  if text.isEmpty then .ok st
  else if text <+: st.input then .ok ⟨st.input.drop text.length, st.pos.advance text⟩
  else .error (Fault.showing [st.pos] (.notAtFront text st.pos))

/-- The state `next` re-anchored on `st`: the input that `next` dropped from the front of the
input of `st` is consumed from `st`, so the position comes from `st` and not from `next`. A
state whose input is not a suffix of the input of `st` is a fault. -/
def reanchor (st next : State) : Except Fault State :=
  if next.input <:+ st.input then st.consume (st.input.take (st.input.length - next.input.length))
  else .error (Fault.showing [next.pos, st.pos] (.unreachable next.pos st.pos))

theorem consume_nil (st : State) : st.consume [] = .ok st := rfl

theorem consume_of_prefix (st : State) (text rest : Text) (h : st.input = text ++ rest)
    (hne : text ≠ []) :
    st.consume text = .ok ⟨rest, st.pos.advance text⟩ := by
  simp [consume, hne, h]

theorem consume_eq_error_iff (st : State) (text : Text) :
    (∃ f, st.consume text = .error f) ↔ text ≠ [] ∧ ¬ text <+: st.input := by
  unfold consume
  by_cases he : text = []
  · simp [he]
  · by_cases hp : text <+: st.input <;> simp [he, hp]

end State

end ParserCombinators
