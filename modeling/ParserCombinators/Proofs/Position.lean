import Mathlib.Data.List.Induction
import ParserCombinators.Position
/-!
Positions after a text, one character at a time. `SourcePos.advance` reads a text in one pass:
the line grows by the number of newlines, the offset by the length, and the column comes from
the characters after the last newline. Folding `SourcePos.advanceChar` over the text gives the
same position from every start, zero, negative and huge coordinates included, so advancing over
two texts in turn is advancing over the text they make together.

Main statement: `advance_eq_foldl_advanceChar`.
-/

namespace ParserCombinators.SourcePos

theorem tailLength_append_newline (t : Text) : tailLength (t ++ [('\n' : CodePoint)]) = 0 := by
  simp [tailLength]

theorem tailLength_append_of_ne (t : Text) {c : CodePoint} (hc : c ≠ ('\n' : CodePoint)) :
    tailLength (t ++ [c]) = tailLength t + 1 := by
  simp [tailLength, hc]

theorem advance_of_count_eq_zero (p : SourcePos) {t : Text}
    (h : t.count ('\n' : CodePoint) = 0) :
    p.advance t = ⟨p.line, p.column + t.length, p.offset + t.length⟩ := by
  unfold advance
  by_cases he : t = []
  · subst he
    simp
  · simp [he, h]

theorem advance_of_count_pos (p : SourcePos) {t : Text} (h : 0 < t.count ('\n' : CodePoint)) :
    p.advance t =
      ⟨p.line + t.count ('\n' : CodePoint), tailLength t + 1, p.offset + t.length⟩ := by
  have he : t ≠ [] := by
    rintro rfl
    simp at h
  simp [advance, he, Nat.pos_iff_ne_zero.mp h]

@[simp] theorem advance_line (p : SourcePos) (t : Text) :
    (p.advance t).line = p.line + t.count ('\n' : CodePoint) := by
  rcases Nat.eq_zero_or_pos (t.count ('\n' : CodePoint)) with h | h
  · simp [advance_of_count_eq_zero p h, h]
  · simp [advance_of_count_pos p h]

@[simp] theorem advance_offset (p : SourcePos) (t : Text) :
    (p.advance t).offset = p.offset + t.length := by
  rcases Nat.eq_zero_or_pos (t.count ('\n' : CodePoint)) with h | h
  · simp [advance_of_count_eq_zero p h]
  · simp [advance_of_count_pos p h]

/-- One more character after a text is one more step of `advanceChar`. The three cases are the
three ways the one-pass rule places the column: after a newline it restarts, in a text with no
newline it counts from the start position, and otherwise it counts from the last newline. -/
theorem advance_append_singleton (p : SourcePos) (t : Text) (c : CodePoint) :
    p.advance (t ++ [c]) = (p.advance t).advanceChar c := by
  by_cases hc : c = ('\n' : CodePoint)
  · subst hc
    have hcount : 0 < (t ++ [('\n' : CodePoint)]).count ('\n' : CodePoint) := by simp
    rw [advance_of_count_pos p hcount, tailLength_append_newline]
    simp [advanceChar, Int.add_assoc]
  · have hcount : (t ++ [c]).count ('\n' : CodePoint) = t.count ('\n' : CodePoint) := by
      simp [hc]
    rcases Nat.eq_zero_or_pos (t.count ('\n' : CodePoint)) with h | h
    · rw [advance_of_count_eq_zero p (hcount.trans h), advance_of_count_eq_zero p h]
      simp [advanceChar, hc, Int.add_assoc]
    · rw [advance_of_count_pos p (hcount ▸ h), advance_of_count_pos p h, hcount,
        tailLength_append_of_ne t hc]
      simp [advanceChar, hc, Int.add_assoc]

theorem advance_eq_foldl (p : SourcePos) (t : Text) : p.advance t = t.foldl advanceChar p := by
  induction t using List.reverseRecOn with
  | nil => rfl
  | append_singleton t c ih => rw [advance_append_singleton, ih, List.foldl_append]; rfl

theorem advance_append (p : SourcePos) (a b : Text) :
    (p.advance a).advance b = p.advance (a ++ b) := by
  simp only [advance_eq_foldl, List.foldl_append]

/-- The one-pass position is the character-by-character fold, from every start; hence advancing
is additive over concatenation. -/
theorem advance_eq_foldl_advanceChar :
    (∀ (p : SourcePos) (t : Text), p.advance t = t.foldl advanceChar p) ∧
    ∀ (p : SourcePos) (a b : Text), (p.advance a).advance b = p.advance (a ++ b) :=
  ⟨advance_eq_foldl, advance_append⟩

end ParserCombinators.SourcePos
