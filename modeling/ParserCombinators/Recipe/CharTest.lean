import ParserCombinators.Value.Access
/-!
Character tests of recipes: the tests a recogniser applies to one code point. The named classes
are the ASCII digits, letters, letters and digits, and the six ASCII white-space characters;
beside them are membership in a text, a range between two texts, and negation.

A test is checked whole when it is read, so testing a code point never fails. A range compares
the one-point text of the code point with its bounds in text order, both bounds included; a
bound may be any text, so `["ab", "b"]` holds `b` but not `a`. Between one-point bounds the
order is that of the code points (`test_range_singleton`).
-/

namespace ParserCombinators

namespace Recipe

inductive CharTest where
  | any
  | none
  /-- The ASCII digits. -/
  | digit
  /-- The ASCII letters. -/
  | alpha
  /-- The ASCII letters and digits. -/
  | alnum
  /-- Space, tab, newline, carriage return, form feed and vertical tab. -/
  | space
  | among (chars : Text)
  | notAmong (chars : Text)
  /-- The code points whose text lies between two texts in text order, both included. -/
  | range (lo hi : Text)
  | negate (t : CharTest)
deriving Inhabited

namespace CharTest

def test : CharTest → CodePoint → Bool
  | any, _ => true
  | none, _ => false
  | digit, c => c.toChar.isDigit
  | alpha, c => c.toChar.isAlpha
  | alnum, c => c.toChar.isAlphanum
  | space, c => c = ' ' ∨ c = '\t' ∨ c = '\n' ∨ c = '\r' ∨ c = '\x0c' ∨ c = '\x0b'
  | among chars, c => chars.contains c
  | notAmong chars, c => !chars.contains c
  | range lo hi, c => Value.textLe lo [c] && Value.textLe [c] hi
  | negate t, c => !t.test c

theorem test_negate (t : CharTest) (c : CodePoint) : (negate t).test c = !t.test c := rfl

theorem textLe_singleton (a c : CodePoint) : Value.textLe [a] [c] = decide (a ≤ c) := by
  by_cases h : a = c
  · subst h; simp [Value.textLe, CodePoint.le_def]
  · have hv : a.val ≠ c.val := fun e => h (CodePoint.ext_val e)
    have : a ≤ c ↔ a < c := by
      simp only [CodePoint.le_def, CodePoint.lt_def]
      omega
    simp [Value.textLe, h, this]

/-- A range between one-point texts holds the code points between them, both included. -/
theorem test_range_singleton (a b c : CodePoint) :
    (range [a] [b]).test c = (decide (a ≤ c) && decide (c ≤ b)) := by
  simp [test, textLe_singleton]

example : (range "ab" "b").test 'b' = true := by decide
example : (range "ab" "b").test 'a' = false := by decide
example : (range "\ue000" [CodePoint.ofNat 0x10ffff]).test (CodePoint.ofNat 0xdabc) = false := by
  decide

end CharTest

end Recipe

end ParserCombinators
