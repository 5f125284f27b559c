import ParserCombinators.Text.Basic
/-!
Source positions: a line, a column and an offset, each an unbounded integer, so that a position
given from outside (zero, negative or huge) is carried through unchanged. Reading past text moves
the offset by its number of code points; a newline starts the next line at column 1.

`SourcePos.advance` counts the lines of a text in one pass and takes the column from the part
after its last newline; `SourcePos.advanceChar` is the step for one character, which the one-pass
rule must agree with when folded over the text.
-/

namespace ParserCombinators

structure SourcePos where
  line : Int := 1
  column : Int := 1
  offset : Int := 0
deriving DecidableEq, Repr, Inhabited

namespace SourcePos

def start : SourcePos := ⟨1, 1, 0⟩

/-- The place after one character: a newline starts the next line, any other character moves one
column. -/
def advanceChar (p : SourcePos) (c : CodePoint) : SourcePos :=
  if c = '\n' then ⟨p.line + 1, 1, p.offset + 1⟩ else ⟨p.line, p.column + 1, p.offset + 1⟩

/-- The place after one unit of text given as a text. Only a unit that is exactly a newline
starts a new line; every other unit, the empty one and longer ones included, counts as one
column. -/
def advanceUnit (p : SourcePos) (unit : Text) : SourcePos :=
  if unit = "\n" then ⟨p.line + 1, 1, p.offset + 1⟩ else ⟨p.line, p.column + 1, p.offset + 1⟩

def tailLength (text : Text) : Nat :=
  (text.reverse.takeWhile (· ≠ ('\n' : CodePoint))).length

/-- The place after a text, in one pass: the line grows by the number of newlines and the offset
by the length. Without a newline the column grows by the length; otherwise it restarts, one past
the characters that follow the last newline. -/
def advance (p : SourcePos) (text : Text) : SourcePos :=
  if text.isEmpty then p
  else
    let breaks := text.count ('\n' : CodePoint)
    if breaks = 0 then ⟨p.line, p.column + text.length, p.offset + text.length⟩
    else ⟨p.line + breaks, tailLength text + 1, p.offset + text.length⟩

/-- How a position is written in messages: its line and column, without the offset. -/
def text (p : SourcePos) : String :=
  s!"line {p.line}, column {p.column}"

@[simp] theorem advanceUnit_singleton (p : SourcePos) (c : CodePoint) :
    p.advanceUnit [c] = p.advanceChar c := by
  have newline : ("\n" : Text) = [('\n' : CodePoint)] := by decide
  by_cases h : c = '\n'
  · subst h; rfl
  · have : ([c] : Text) ≠ "\n" := by
      rw [newline]
      intro e
      exact h (List.head_eq_of_cons_eq e)
    simp [advanceUnit, advanceChar, h, this]

@[simp] theorem advance_nil (p : SourcePos) : p.advance [] = p := rfl

example : SourcePos.start.advance "ab\ncd\nefg" = ⟨3, 4, 9⟩ := by decide +kernel

end SourcePos

end ParserCombinators
