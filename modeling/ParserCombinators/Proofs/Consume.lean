import ParserCombinators.Reply
import ParserCombinators.Proofs.Position
/-!
Consuming in steps. Consuming a text is decided by one test, whether the input starts with it:
then the state drops the text and advances over it, and otherwise consuming faults with a
desynchronisation shown at the state's position (`consume_eq_ite`). Since the input starts with
`a ++ b` exactly when it starts with `a` and what is left starts with `b`, and advancing over two
texts in turn is advancing over both, consuming `a` and then `b` reaches the state that consuming
`a ++ b` reaches, and faults on the same states and texts.

The faults themselves can differ: each is shown at the position where its step stands, and a
position whose line or column is too long to write turns the fault into that of an integer too
long to write. Consuming `a` may carry the column past the limit, so the step for `b` faults on
writing its position where consuming `a ++ b` at once reports a desynchronisation.

Main statements: `consume_consume_eq_consume_append` (consuming in two steps and at once reach
the same states and fault on the same ones) and `consume_consume_fault_differs` (a case where the
two faults differ).
-/

namespace ParserCombinators

namespace State

/-- Consuming is decided by whether the input starts with the text; the empty text is a prefix of
every input. -/
theorem consume_eq_ite (st : State) (text : Text) :
    st.consume text =
      if text <+: st.input then .ok ⟨st.input.drop text.length, st.pos.advance text⟩
      else .error (if st.pos.writable then .notAtFront text st.pos else .integerTooLong) := by
  by_cases he : text = []
  · subst he
    simp [consume]
  · by_cases hp : text <+: st.input <;> simp [consume, he, hp, Fault.showing]

theorem append_isPrefix_iff {a b s : Text} :
    a ++ b <+: s ↔ a <+: s ∧ b <+: s.drop a.length := by
  constructor
  · rintro ⟨t, rfl⟩
    refine ⟨⟨b ++ t, by simp⟩, ⟨t, by simp⟩⟩
  · rintro ⟨⟨t, rfl⟩, ⟨u, hu⟩⟩
    simp only [List.drop_left] at hu
    exact ⟨u, by rw [← hu, List.append_assoc]⟩

theorem consume_of_isPrefix {st : State} {text : Text} (h : text <+: st.input) :
    st.consume text = .ok ⟨st.input.drop text.length, st.pos.advance text⟩ := by
  rw [consume_eq_ite, if_pos h]

theorem consume_of_not_isPrefix {st : State} {text : Text} (h : ¬ text <+: st.input) :
    st.consume text =
      .error (if st.pos.writable then .notAtFront text st.pos else .integerTooLong) := by
  rw [consume_eq_ite, if_neg h]

theorem consume_bind_consume (st : State) (a b : Text) :
    (st.consume a >>= fun mid => mid.consume b) =
      if a <+: st.input then
        if b <+: st.input.drop a.length then
          .ok ⟨st.input.drop (a ++ b).length, st.pos.advance (a ++ b)⟩
        else .error (if (st.pos.advance a).writable then .notAtFront b (st.pos.advance a)
          else .integerTooLong)
      else .error (if st.pos.writable then .notAtFront a st.pos else .integerTooLong) := by
  by_cases ha : a <+: st.input
  · rw [consume_of_isPrefix ha, if_pos ha]
    change State.consume ⟨st.input.drop a.length, st.pos.advance a⟩ b = _
    by_cases hb : b <+: st.input.drop a.length
    · rw [@consume_of_isPrefix ⟨st.input.drop a.length, st.pos.advance a⟩ b hb, if_pos hb,
        List.drop_drop, SourcePos.advance_append, List.length_append, Nat.add_comm]
    · rw [@consume_of_not_isPrefix ⟨st.input.drop a.length, st.pos.advance a⟩ b hb,
        if_neg hb]
  · rw [consume_of_not_isPrefix ha, if_neg ha]
    rfl

/-- Consuming `a` and then `b` reaches the state consuming `a ++ b` reaches, and faults exactly
when the input does not start with `a ++ b`, which is never when `a ++ b` is empty. Each way
faults with a desynchronisation shown where its failing step stands (for the single step, the
start), or, when that position has a line or column too long to write, with the fault of writing
it. Consuming nothing keeps the state, and a success that claims `a ++ b` resumes where consuming
`a` and then `b` does. -/
theorem consume_consume_eq_consume_append :
    (∀ st : State, st.consume [] = .ok st) ∧
    ∀ (st : State) (a b : Text),
      (∀ next, (st.consume a >>= fun mid => mid.consume b) = .ok next ↔
        st.consume (a ++ b) = .ok next) ∧
      ((∃ f, (st.consume a >>= fun mid => mid.consume b) = .error f) ↔
        a ++ b ≠ [] ∧ ¬ a ++ b <+: st.input) ∧
      ((∃ f, st.consume (a ++ b) = .error f) ↔ a ++ b ≠ [] ∧ ¬ a ++ b <+: st.input) ∧
      (∀ f, st.consume (a ++ b) = .error f →
        f = if st.pos.writable then .notAtFront (a ++ b) st.pos else .integerTooLong) ∧
      (∀ f, (st.consume a >>= fun mid => mid.consume b) = .error f →
        (¬ a <+: st.input ∧ f = if st.pos.writable then .notAtFront a st.pos else .integerTooLong) ∨
        (a <+: st.input ∧ ¬ b <+: st.input.drop a.length ∧
          f = if (st.pos.advance a).writable then .notAtFront b (st.pos.advance a)
            else .integerTooLong)) ∧
      (∀ {α : Type} (v : α) next, Reply.succeed v st (a ++ b) = .ok v next ↔
        (st.consume a >>= fun mid => mid.consume b) = .ok next) := by
  refine ⟨consume_nil, fun st a b => ?_⟩
  -- a text that is empty is a prefix, so "faults" and "not a prefix" say the same
  have hne : (a ++ b ≠ [] ∧ ¬ a ++ b <+: st.input) ↔ ¬ a ++ b <+: st.input :=
    ⟨And.right, fun h => ⟨fun he => h (he ▸ List.nil_prefix), h⟩⟩
  have hok : ∀ next, (st.consume a >>= fun mid => mid.consume b) = .ok next ↔
      st.consume (a ++ b) = .ok next := by
    intro next
    rw [consume_bind_consume, consume_eq_ite st (a ++ b)]
    by_cases ha : a <+: st.input <;> by_cases hb : b <+: st.input.drop a.length <;>
      simp [ha, hb, append_isPrefix_iff]
  refine ⟨hok, ?_, ?_, ?_, ?_, ?_⟩
  · rw [hne, consume_bind_consume]
    by_cases ha : a <+: st.input <;> by_cases hb : b <+: st.input.drop a.length <;>
      simp [ha, hb, append_isPrefix_iff]
  · rw [hne, consume_eq_ite]
    by_cases h : a ++ b <+: st.input <;> simp [h]
  · intro f hf
    rw [consume_eq_ite] at hf
    split at hf
    · cases hf
    · exact (Except.error.inj hf).symm
  · intro f hf
    rw [consume_bind_consume] at hf
    by_cases ha : a <+: st.input
    · by_cases hb : b <+: st.input.drop a.length
      · simp [ha, hb] at hf
      · simp only [ha, hb, if_true, if_false, Except.error.injEq] at hf
        exact .inr ⟨ha, hb, hf.symm⟩
    · simp only [ha, if_false, Except.error.injEq] at hf
      exact .inl ⟨ha, hf.symm⟩
  · intro α v next
    rw [hok]
    simp only [Reply.succeed]
    cases st.consume (a ++ b) <;> simp

/-- From the start of `xz`, consuming `x` and then `z` reaches the end of the input as consuming
`xz` does, and consuming `x` and then `y` faults on `y` at the second column. -/
theorem consume_x_then_z :
    let st : State := ⟨"xz", SourcePos.start⟩
    (st.consume "x" >>= fun mid => mid.consume "z") =
        .ok ⟨st.input.drop ("x" ++ "z" : Text).length, st.pos.advance ("x" ++ "z")⟩ ∧
      ∀ f, (st.consume "x" >>= fun mid => mid.consume "y") = .error f →
        f = .notAtFront "y" (st.pos.advance "x") := by
  intro st
  have hxz : ("x" ++ "z" : Text) <+: st.input := by decide
  refine ⟨((consume_consume_eq_consume_append.2 st "x" "z").1 _).mpr (consume_of_isPrefix hxz),
    fun f hf => ?_⟩
  have hx : ("x" : Text) <+: st.input := by decide
  have hwritable : (st.pos.advance "x").writable = true := by decide +kernel
  rcases (consume_consume_eq_consume_append.2 st "x" "y").2.2.2.2.1 f hf with
    ⟨hnot, -⟩ | ⟨-, -, hfault⟩
  · exact absurd hx hnot
  · rw [hfault, hwritable, if_pos rfl]

/-- From column `10 ^ 4300 - 1`, consuming `x` moves the column to a number of 4301 digits, so
consuming `y` next faults on writing its position, while consuming `xy` at once is a
desynchronisation at a position that can be written. -/
theorem consume_consume_fault_differs :
    let st : State := ⟨"xz", ⟨1, (Nat.pow 10 Fault.digitLimit : Int) - 1, 0⟩⟩
    (st.consume "x" >>= fun mid => mid.consume "y") = .error .integerTooLong ∧
      st.consume ("x" ++ "y") = .error (.notAtFront ("x" ++ "y") st.pos) := by
  intro st
  have hx : ("x" : Text) <+: st.input := by decide
  have hy : ¬ ("y" : Text) <+: st.input.drop ("x" : Text).length := by decide
  have hxy : ¬ ("x" ++ "y" : Text) <+: st.input := by decide
  -- the column after `x` has one digit more than the limit allows; the start's has not
  have hafter : (st.pos.advance "x").writable = false := by decide +kernel
  have hstart : st.pos.writable = true := by decide +kernel
  rw [consume_bind_consume, consume_of_not_isPrefix hxy]
  simp only [hx, hy, hafter, hstart, if_true, if_false, Bool.false_eq_true, and_true]

end State

end ParserCombinators
