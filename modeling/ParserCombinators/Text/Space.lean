import ParserCombinators.Text.Basic
import ParserCombinators.Text.CodeRanges
/-!
White space of Unicode 14.0: the characters of the bidirectional classes WS, B and S and of the
general category Zs. Beside the space, tab, newline, vertical tab, form feed and carriage return
these are the four information separators U+001C to U+001F, the next line U+0085, the no-break
spaces and the line and paragraph separators.
-/

namespace ParserCombinators.Text

def spaceRanges : List (Nat × Nat) := [
  (0x9, 0xd), (0x1c, 0x20), (0x85, 0x85), (0xa0, 0xa0), (0x1680, 0x1680), (0x2000, 0x200a),
  (0x2028, 0x2029), (0x202f, 0x202f), (0x205f, 0x205f), (0x3000, 0x3000)
]

def isSpace (c : CodePoint) : Bool :=
  inRanges spaceRanges c.val

example : isSpace ' ' ∧ isSpace '\x1c' ∧ isSpace '\u3000' ∧ ¬ isSpace '\u200b' := by decide

end ParserCombinators.Text
