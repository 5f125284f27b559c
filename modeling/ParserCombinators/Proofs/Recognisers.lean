import ParserCombinators.Parser.Char
import ParserCombinators.Proofs.Consume
/-!
What the recognisers read. `satisfy` reads one character that passes its test and otherwise
fails where it stands; it never faults.

The run of a test at the front of a text is its longest prefix whose characters all pass the
test: every character of the run passes, the character after it, if there is one, fails, and
every prefix whose characters all pass lies inside the run. `span` reads exactly that run and
reports it through `Reply.succeed`, so what it claims to have read is a prefix of the input: the
state after it is the one consuming the run gives, and `span` neither fails nor faults, on any
state and for any test.

Main statement: `span_reads_longest_run`.
-/

namespace ParserCombinators

namespace Parser

variable (pred : CodePoint → Bool)

/-! ### One character -/

theorem satisfy_parse_eq_ok {desc : Text} {st next : State} {c : CodePoint}
    (h : (satisfy pred desc).parse st = .ok c next) :
    st.input = c :: next.input ∧ pred c = true ∧ next.pos = st.pos.advance [c] := by
  obtain ⟨input, pos⟩ := st
  cases input with
  | nil => cases h
  | cons d rest =>
    by_cases hd : pred d = true
    · rw [satisfy_parse_of_pred pred desc d rest pos hd] at h
      cases h
      exact ⟨rfl, hd, rfl⟩
    · simp [satisfy, hd] at h

theorem satisfy_parse_ne_raised (desc : Text) (st : State) (x : Fault) :
    (satisfy pred desc).parse st ≠ .raised x := by
  obtain ⟨input, pos⟩ := st
  cases input with
  | nil =>
    rw [satisfy_parse_nil]
    exact nofun
  | cons d rest =>
    by_cases hd : pred d = true
    · rw [satisfy_parse_of_pred pred desc d rest pos hd]
      exact nofun
    · simp [satisfy, hd]

/-! ### Runs -/

theorem drop_length_takeWhile (l : Text) :
    l.drop (l.takeWhile pred).length = l.dropWhile pred :=
  calc l.drop (l.takeWhile pred).length
      = (l.takeWhile pred ++ l.dropWhile pred).drop (l.takeWhile pred).length := by
        rw [List.takeWhile_append_dropWhile]
    _ = l.dropWhile pred := List.drop_left

theorem head?_drop_takeWhile (l : Text) :
    ∀ c ∈ (l.drop (l.takeWhile pred).length).head?, pred c = false := by
  intro c hc
  have hnot := List.head?_dropWhile_not pred l
  rw [← drop_length_takeWhile, Option.mem_def.mp hc] at hnot
  exact hnot

theorem isPrefix_takeWhile_of_all {u l : Text} (hu : u <+: l) (hall : ∀ c ∈ u, pred c = true) :
    u <+: l.takeWhile pred := by
  obtain ⟨t, rfl⟩ := hu
  rw [List.takeWhile_append_of_pos hall]
  exact List.prefix_append u _

theorem span_parse_eq_ok {desc : Text} {st next : State} {w : Text}
    (h : (span pred desc).parse st = .ok w next) :
    st.input = w ++ next.input ∧ (∀ c ∈ w, pred c = true) ∧ next.pos = st.pos.advance w := by
  rw [span_parse] at h
  cases h
  refine ⟨?_, List.all_eq_true.mp List.all_takeWhile, rfl⟩
  rw [drop_length_takeWhile, List.takeWhile_append_dropWhile]

/-- `span pred desc` reads the longest run of characters that pass `pred` at the front of the
input, whatever the state. The run is a prefix of the input, all its characters pass, the
character after it fails, and every prefix whose characters all pass lies inside it. Consuming
the run succeeds, and `span` succeeds with the run and the state that consuming it gives: it never
fails and never faults. -/
theorem span_reads_longest_run (desc : Text) (st : State) :
    let w := st.input.takeWhile pred
    (w <+: st.input ∧ (∀ c ∈ w, pred c = true) ∧
      (∀ c ∈ (st.input.drop w.length).head?, pred c = false) ∧
      ∀ u, u <+: st.input → (∀ c ∈ u, pred c = true) → u <+: w) ∧
    st.consume w = .ok ⟨st.input.drop w.length, st.pos.advance w⟩ ∧
    (span pred desc).parse st = .ok w ⟨st.input.drop w.length, st.pos.advance w⟩ := by
  intro w
  have hrun : w <+: st.input := List.takeWhile_prefix pred
  have hconsume : st.consume w = .ok ⟨st.input.drop w.length, st.pos.advance w⟩ :=
    State.consume_of_isPrefix hrun
  refine ⟨⟨hrun, List.all_eq_true.mp List.all_takeWhile, head?_drop_takeWhile pred st.input,
    fun u hu hall => isPrefix_takeWhile_of_all pred hu hall⟩, hconsume, ?_⟩
  simp only [span, Reply.succeed, hconsume, w]

end Parser

end ParserCombinators
