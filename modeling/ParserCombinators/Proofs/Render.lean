import Mathlib.Data.List.DropRight
import Mathlib.Data.List.GetD
import ParserCombinators.Proofs.InStep
import ParserCombinators.Proofs.SettingsGrammar
import ParserCombinators.Settings.Report
/-!
Rendering an error at a place a run reaches. A run that has read the first `k` characters of a
source stands at the start position advanced over them: its line is one more than the number of
newlines read, and its column one more than the number of characters read since the last of
them. Rendering looks the line up among the lines of the source and puts the caret that many
columns in, so it shows the line holding index `k`, from one past the last newline before `k`
(`lineStart`) to the first newline at or after it (`lineEnd`), with the caret under index `k`.

The only faults rendering has on such a position are those of a machine: a caret line too wide
for memory, or a line or column with too many digits to write. Neither arises for a source that
fits in memory, whose lines and columns are all below the memory bound.

Main statement: `render_shows_line_of_offset`, which also covers every failure of a run of a
built parser, since such a failure stands where the run has read exactly its offset.
-/

namespace ParserCombinators

namespace SourcePos

theorem tailLength_of_count_eq_zero {t : Text} (h : t.count ('\n' : CodePoint) = 0) :
    tailLength t = t.length := by
  have hall : ∀ c ∈ t.reverse, decide (c ≠ ('\n' : CodePoint)) = true := by
    intro c hc
    have hne : c ≠ '\n' := by
      rintro rfl
      exact List.count_eq_zero.mp h (List.mem_reverse.mp hc)
    simpa using hne
  rw [tailLength, List.takeWhile_eq_self_iff.mpr hall, List.length_reverse]

theorem start_advance_column (t : Text) : (start.advance t).column = tailLength t + 1 := by
  rcases Nat.eq_zero_or_pos (t.count ('\n' : CodePoint)) with h | h
  · rw [advance_of_count_eq_zero start h, tailLength_of_count_eq_zero h]
    simp only [start]
    omega
  · rw [advance_of_count_pos start h]

theorem tailLength_eq_length_rtakeWhile (t : Text) :
    tailLength t = (t.rtakeWhile (· ≠ ('\n' : CodePoint))).length := by
  simp [tailLength, List.rtakeWhile]

theorem tailLength_le (t : Text) : tailLength t ≤ t.length := by
  rw [tailLength_eq_length_rtakeWhile]
  exact (List.rtakeWhile_suffix _ t).length_le

end SourcePos

namespace ParseError

/-! ### The lines of a source -/

theorem lines_cons_of_ne {c : CodePoint} (hc : c ≠ '\n') (cs : Text) :
    ∃ l ls, lines cs = l :: ls ∧ lines (c :: cs) = (c :: l) :: ls := by
  obtain ⟨l, ls, h⟩ := List.exists_cons_of_ne_nil (lines_ne_nil cs)
  exact ⟨l, ls, h, by simp [lines, hc, h]⟩

theorem lines_append_newline (a b : Text) :
    lines (a ++ ('\n' : CodePoint) :: b) = lines a ++ lines b := by
  induction a with
  | nil => simp [lines]
  | cons c cs ih =>
    by_cases hc : c = '\n'
    · subst hc
      simp [lines, ih]
    · obtain ⟨l, ls, hcs, hline⟩ := lines_cons_of_ne hc cs
      obtain ⟨l', ls', hcs', hline'⟩ := lines_cons_of_ne hc (cs ++ ('\n' : CodePoint) :: b)
      rw [ih, hcs, List.cons_append, List.cons.injEq] at hcs'
      obtain ⟨rfl, rfl⟩ := hcs'
      rw [List.cons_append, hline', hline, List.cons_append]

theorem length_lines (s : Text) : (lines s).length = s.count ('\n' : CodePoint) + 1 := by
  induction s with
  | nil => simp [lines]
  | cons c cs ih =>
    by_cases hc : c = '\n'
    · subst hc
      simp [lines, ih]
    · obtain ⟨l, ls, hcs, hline⟩ := lines_cons_of_ne hc cs
      rw [hline, List.count_cons_of_ne hc, ← ih, hcs]
      rfl

theorem lines_getD_zero (u : Text) :
    (lines u).getD 0 [] = u.takeWhile (· ≠ ('\n' : CodePoint)) := by
  induction u with
  | nil => rfl
  | cons c cs ih =>
    by_cases hc : c = '\n'
    · subst hc
      simp [lines]
    · obtain ⟨l, ls, hcs, hline⟩ := lines_cons_of_ne hc cs
      rw [hcs, List.getD_cons_zero] at ih
      rw [hline, List.getD_cons_zero, List.takeWhile_cons_of_pos (by simpa using hc), ih]

/-- The line of a text that holds the place after `t` is the line whose index is the number of
newlines in `t`: the characters of `t` after its last newline, then those that follow up to the
next newline. The induction takes `t` from its end, so that a newline last in `t` splits the
lines there. -/
theorem lines_getD_count (t u : Text) :
    (lines (t ++ u)).getD (t.count ('\n' : CodePoint)) [] =
      t.rtakeWhile (· ≠ ('\n' : CodePoint)) ++ u.takeWhile (· ≠ ('\n' : CodePoint)) := by
  induction t using List.reverseRecOn generalizing u with
  | nil => simpa using lines_getD_zero u
  | append_singleton t c ih =>
    by_cases hc : c = '\n'
    · subst hc
      have hlen := length_lines t
      rw [List.append_assoc, List.singleton_append, lines_append_newline, List.count_append,
        List.count_singleton_self, List.getD_append_right _ _ _ _ (by omega), hlen,
        Nat.sub_self, lines_getD_zero, List.rtakeWhile_concat_neg _ _ _ (by simp),
        List.nil_append]
    · have hcount : (t ++ [c]).count ('\n' : CodePoint) = t.count ('\n' : CodePoint) := by
        simp [hc]
      rw [List.append_assoc, List.singleton_append, hcount, ih (c :: u),
        List.rtakeWhile_concat_pos _ _ _ (by simpa using hc),
        List.takeWhile_cons_of_pos (by simpa using hc), List.append_assoc, List.singleton_append]

/-! ### The line holding an index -/

/-- Where the line holding index `k` of a text starts: one past the last newline before `k`, or
0 when there is none. -/
def lineStart (s : Text) (k : Nat) : Nat :=
  k - (s.take k).reverse.findIdx (· == ('\n' : CodePoint))

/-- Where the line holding index `k` of a text ends: at the first newline at or after `k`, or at
the end of the text when there is none. -/
def lineEnd (s : Text) (k : Nat) : Nat :=
  k + (s.drop k).findIdx (· == ('\n' : CodePoint))

theorem findIdx_newline (l : Text) :
    l.findIdx (· == ('\n' : CodePoint)) = (l.takeWhile (· ≠ ('\n' : CodePoint))).length := by
  induction l with
  | nil => rfl
  | cons c cs ih =>
    by_cases hc : c = '\n'
    · simp [List.findIdx_cons, hc]
    · have hbeq : (c == ('\n' : CodePoint)) = false := by simpa using hc
      rw [List.findIdx_cons, hbeq, cond_false, ih, List.takeWhile_cons_of_pos (by simpa using hc),
        List.length_cons]

theorem lineStart_eq (s : Text) (k : Nat) :
    lineStart s k = k - SourcePos.tailLength (s.take k) := by
  rw [lineStart, findIdx_newline, SourcePos.tailLength]

theorem lineText_eq {s : Text} {k : Nat} (hk : k ≤ s.length) :
    (s.take (lineEnd s k)).drop (lineStart s k) =
      (s.take k).rtakeWhile (· ≠ ('\n' : CodePoint)) ++
        (s.drop k).takeWhile (· ≠ ('\n' : CodePoint)) := by
  have hsplit := List.rdropWhile_append_rtakeWhile (p := (· ≠ ('\n' : CodePoint))) (l := s.take k)
  have hlen := congrArg List.length hsplit
  rw [List.length_append, List.length_take_of_le hk] at hlen
  have hstart : lineStart s k = ((s.take k).rdropWhile (· ≠ ('\n' : CodePoint))).length := by
    rw [lineStart_eq, SourcePos.tailLength_eq_length_rtakeWhile]
    omega
  have hend : s.take (lineEnd s k) =
      s.take k ++ (s.drop k).takeWhile (· ≠ ('\n' : CodePoint)) := by
    rw [lineEnd, List.take_add, findIdx_newline,
      ← List.prefix_iff_eq_take.mp (List.takeWhile_prefix _)]
  have hdrop : (s.take k).drop ((s.take k).rdropWhile (· ≠ ('\n' : CodePoint))).length =
      (s.take k).rtakeWhile (· ≠ ('\n' : CodePoint)) := by
    conv_lhs => arg 2; rw [← hsplit]
    exact List.drop_left
  rw [hend, hstart, List.drop_append_of_le_length (by rw [List.length_take_of_le hk]; omega),
    hdrop]

/-! ### Rendering -/

theorem memoryBound_eq : memoryBound = 68719476736 := by decide +kernel

theorem indexBound_eq : indexBound = 9223372036854775808 := by decide +kernel

theorem sourceLine_succ {s : Text} {n : Nat} (h : n < (lines s).length) :
    sourceLine s ((n : Int) + 1) = .ok ((lines s).getD n []) := by
  have hle : (n : Int) + 1 ≤ (lines s).length := by omega
  have hpos : (1 : Int) ≤ n + 1 := by omega
  simp [sourceLine, hle, hpos]

theorem caret_succ {w : Nat} (h : (w : Int) < memoryBound) :
    caret ((w : Int) + 1) = .ok (List.replicate w (' ' : CodePoint) ++ "^") := by
  rw [memoryBound_eq] at h
  have hindex : ¬ ((w : Int) < -indexBound ∨ indexBound ≤ w) := by
    rw [indexBound_eq]
    omega
  have hmemory : ¬ memoryBound ≤ (w : Int) := by
    rw [memoryBound_eq]
    omega
  simp [caret, hindex, hmemory]

theorem fitsDigitLimit_of_le {n : Int} (h0 : 0 ≤ n) (h : n ≤ memoryBound) :
    Fault.fitsDigitLimit n = true := by
  have hbound : (68719476736 : Nat) < Nat.pow 10 Fault.digitLimit := by decide +kernel
  rw [memoryBound_eq] at h
  simp only [Fault.fitsDigitLimit, decide_eq_true_eq]
  omega

theorem render_eq_of_ok {e : ParseError} {s line mark : Text}
    (hline : sourceLine s e.pos.line = .ok line) (hmark : caret e.pos.column = .ok mark)
    (hwritable : e.pos.writable = true) :
    e.render s = .ok (e.text ++ "\n" ++ line ++ "\n" ++ mark) := by
  simp [render, hline, hmark, write, hwritable, bind, Except.bind, pure, Except.pure]

/-- An error at the place reached after the first `k` characters of a source that fits in memory
renders the line holding index `k`, with the caret under that index. -/
theorem render_of_pos_eq {e : ParseError} {s : Text} {k : Nat} (hk : k ≤ s.length)
    (hfits : (s.length : Int) < memoryBound) (hpos : e.pos = SourcePos.start.advance (s.take k)) :
    e.render s = .ok (e.text ++ "\n" ++ (s.take (lineEnd s k)).drop (lineStart s k) ++ "\n" ++
      List.replicate (k - lineStart s k) (' ' : CodePoint) ++ "^") := by
  have hprefix : (s.take k).count ('\n' : CodePoint) ≤ s.count ('\n' : CodePoint) :=
    (List.take_prefix k s).count_le _
  have hcount : (s.take k).count ('\n' : CodePoint) ≤ s.length :=
    hprefix.trans (List.count_le_length ..)
  have htail : SourcePos.tailLength (s.take k) ≤ k :=
    (SourcePos.tailLength_le _).trans (List.length_take_le ..)
  have hline : e.pos.line = ((s.take k).count ('\n' : CodePoint) : Int) + 1 := by
    rw [hpos, SourcePos.advance_line]
    simp only [SourcePos.start]
    omega
  have hcolumn : e.pos.column = (SourcePos.tailLength (s.take k) : Int) + 1 := by
    rw [hpos, SourcePos.start_advance_column]
  -- the line is looked up by the number of newlines read, which the source has at least
  have hsource : sourceLine s e.pos.line =
      .ok ((s.take k).rtakeWhile (· ≠ ('\n' : CodePoint)) ++
        (s.drop k).takeWhile (· ≠ ('\n' : CodePoint))) := by
    have hlt : (s.take k).count ('\n' : CodePoint) < (lines s).length := by
      rw [length_lines]
      omega
    rw [hline, sourceLine_succ hlt, ← lines_getD_count, List.take_append_drop]
  have hcaret : caret e.pos.column =
            .ok (List.replicate (SourcePos.tailLength (s.take k)) (' ' : CodePoint) ++ "^") := by
    rw [hcolumn]
    exact caret_succ (by omega)
  have hwritable : e.pos.writable = true := by
    simp only [SourcePos.writable, hline, hcolumn, Bool.and_eq_true]
    exact ⟨fitsDigitLimit_of_le (by omega) (by omega), fitsDigitLimit_of_le (by omega) (by omega)⟩
  rw [render_eq_of_ok hsource hcaret hwritable, lineText_eq hk, lineStart_eq,
    Nat.sub_sub_self htail]
  simp only [List.append_assoc]

/-- A failure of a run of a built parser stands where the run has read exactly its offset, so on
a source that fits in memory it renders the line holding that offset with the caret under it. -/
theorem render_of_run_failed {α : Type} {p : Parser α} (hp : p.Built) {s : Text} {e : ParseError}
    (hfits : (s.length : Int) < memoryBound) (hrun : p.run s = .failed e) :
    e.render s = .ok (e.text ++ "\n" ++
      (s.take (lineEnd s e.pos.offset.toNat)).drop (lineStart s e.pos.offset.toNat) ++ "\n" ++
      List.replicate (e.pos.offset.toNat - lineStart s e.pos.offset.toNat) (' ' : CodePoint) ++
      "^") := by
  -- the failure stands where the run has read some `k` characters, and its offset counts them
  have hstep := hp.inStep.adjust (State.initial s)
  rw [← Parser.run, hrun, Reply.inStep_failed, State.exists_reaches_pos_iff] at hstep
  obtain ⟨k, hk, hpos⟩ := hstep
  have hoffset : e.pos.offset.toNat = k := by
    rw [hpos, SourcePos.advance_offset, List.length_take_of_le hk]
    simp [State.initial, SourcePos.start]
  rw [hoffset]
  exact render_of_pos_eq hk hfits hpos

end ParseError

namespace Settings

/-- A settings document that fails to read prints its error rendered against the document, the
line holding the failure with the caret under it, and ends with status 1. -/
theorem command_of_read_failed {s : Text} {e : ParseError}
    (hfits : (s.length : Int) < ParseError.memoryBound) (hread : read s = .failed e) :
    command s = .ok ⟨e.text ++ "\n" ++
      (s.take (ParseError.lineEnd s e.pos.offset.toNat)).drop
        (ParseError.lineStart s e.pos.offset.toNat) ++ "\n" ++
      List.replicate (e.pos.offset.toNat - ParseError.lineStart s e.pos.offset.toNat)
        (' ' : CodePoint) ++ "^" ++ "\n", 1⟩ := by
  have hrun : document.run s = .failed e := by rw [← read, hread]
  have hrender := ParseError.render_of_run_failed document_built hfits hrun
  simp only [command, hread, hrender, bind, Except.bind, pure, Except.pure]

end Settings

namespace ParseError

/-- Caret rendering is exact at every place a run reaches. For a source `s` that fits in memory
and every `k ≤ s.length`, an error at the position reached after the first `k` characters
renders as its one-line text, the line of `s` holding index `k` (from one past the last newline
before `k` to the first newline at or after it) and a caret under index `k`. Every failure of a
run of a built parser stands at such a position, the one its offset names, and so does every
failure the settings command prints, with status 1. -/
theorem render_shows_line_of_offset :
    (∀ (message : Text) (expected : List Text) (s : Text) (k : Nat), k ≤ s.length →
      (s.length : Int) < memoryBound →
      let e : ParseError := ⟨message, expected, SourcePos.start.advance (s.take k)⟩
      e.render s = .ok (e.text ++ "\n" ++ (s.take (lineEnd s k)).drop (lineStart s k) ++ "\n" ++
        List.replicate (k - lineStart s k) (' ' : CodePoint) ++ "^")) ∧
    (∀ {α : Type} (p : Parser α), p.Built → ∀ (s : Text) (e : ParseError),
      (s.length : Int) < memoryBound → p.run s = .failed e →
      let k := e.pos.offset.toNat
      e.render s = .ok (e.text ++ "\n" ++ (s.take (lineEnd s k)).drop (lineStart s k) ++ "\n" ++
        List.replicate (k - lineStart s k) (' ' : CodePoint) ++ "^")) ∧
    (∀ (s : Text) (e : ParseError), (s.length : Int) < memoryBound → Settings.read s = .failed e →
      let k := e.pos.offset.toNat
      Settings.command s = .ok ⟨e.text ++ "\n" ++ (s.take (lineEnd s k)).drop (lineStart s k) ++
        "\n" ++ List.replicate (k - lineStart s k) (' ' : CodePoint) ++ "^" ++ "\n", 1⟩) :=
  ⟨fun _ _ _ _ hk hfits => render_of_pos_eq hk hfits rfl,
    fun _ hp _ _ hfits hrun => render_of_run_failed hp hfits hrun,
    fun _ _ hfits hread => Settings.command_of_read_failed hfits hread⟩

/-- In `one\nabx\n`, an error at the end shows the empty line after the trailing newline, and
the failure of a literal followed by `c` shows the second line with the caret under `x`; the
settings command prints a setting missing its `=` on the second line with the caret under the
value. -/
theorem render_second_line_caret :
    let s : Text := "one\nabx\n"
    let p := (Parser.string "one\nab").zip (Parser.char 'c')
    let e : ParseError := ⟨"unexpected 'x'", ["'c'"], ⟨2, 3, 6⟩⟩
    let d : Text := "a = 1\nb 2\n"
    let missing : ParseError := ⟨"expected '=' after setting name", ["'='"], ⟨2, 3, 8⟩⟩
    s.length ≤ s.length ∧ (s.length : Int) < memoryBound ∧
      (ParseError.mk "unexpected end of input" [] (SourcePos.start.advance (s.take s.length))).render
        s = .ok "Parse error at line 3, column 1: unexpected end of input\n\n^" ∧
      p.Built ∧ p.run s = .failed e ∧
      e.render s = .ok "Parse error at line 2, column 3: unexpected 'x' (expected 'c')\nabx\n  ^" ∧
      (d.length : Int) < memoryBound ∧ Settings.read d = .failed missing ∧
      Settings.command d = .ok ⟨"Parse error at line 2, column 3: expected '=' after setting name " ++
        "(expected '=')\nb 2\n  ^\n", 1⟩ := by
  intro s p e d missing
  have hfits : (s.length : Int) < memoryBound := by decide +kernel
  have hbuilt : p.Built := .zip (.string _) (.satisfy _ _)
  have hrun : p.run s = .failed e := rfl
  have hfitsd : (d.length : Int) < memoryBound := by decide +kernel
  have hread : Settings.read d = .failed missing := by decide +kernel
  have hend := render_shows_line_of_offset.1 "unexpected end of input" [] s s.length (le_refl _) hfits
  have hfailure := render_shows_line_of_offset.2.1 p hbuilt s e hfits hrun
  have hcommand := render_shows_line_of_offset.2.2 d missing hfitsd hread
  dsimp only at hend hfailure hcommand
  refine ⟨le_refl _, hfits, ?_, hbuilt, hrun, ?_, hfitsd, hread, ?_⟩
  · rw [hend]
    decide +kernel
  · rw [hfailure]
    decide +kernel
  · rw [hcommand]
    decide +kernel

end ParseError

end ParserCombinators
