import ParserCombinators.ParseError
/-!
Message templates: a text in which the tokens `{message}`, `{expected}`, `{expected_or}`,
`{pos}`, `{line}`, `{column}`, `{offset}` and `{count}` stand for parts of a parse error. A
template is read once, left to right, into literal code points and tokens; filling it in puts the
parts of an error in place of the tokens and never reads the inserted text again. Any other text
in braces stays as it is.
-/

namespace ParserCombinators

namespace Recipe

inductive TemplatePart where
  | literal (c : CodePoint)
  | message
  /-- The accepted alternatives, separated by commas. -/
  | expected
  /-- The accepted alternatives, separated by "or". -/
  | expectedOr
  /-- The line and column of the error. -/
  | pos
  | line
  | column
  | offset
  | count
deriving DecidableEq, Repr, Inhabited

/-- The text a piece stands for, for a given error; a number or position too long to write is a
fault. -/
def TemplatePart.fill (e : ParseError) : TemplatePart → Except Fault Text
  | .literal c => .ok [c]
  | .message => .ok e.message
  | .expected => .ok ((", " : Text).intercalate e.expected)
  | .expectedOr => .ok ((" or " : Text).intercalate e.expected)
  | .pos => Text.ofString <$> e.pos.write
  | .line => Text.ofString <$> writeDecimal e.pos.line
  | .column => Text.ofString <$> writeDecimal e.pos.column
  | .offset => Text.ofString <$> writeDecimal e.pos.offset
  | .count => .ok (toString e.expected.length)

abbrev Template := List TemplatePart

namespace Template

/-- The tokens of templates with the pieces they stand for. No token is the start of another, so
the order in which they are tried does not matter. -/
def tokens : List (Text × TemplatePart) :=
  [("\x7bmessage\x7d", .message), ("\x7bexpected\x7d", .expected),
   ("\x7bexpected_or\x7d", .expectedOr), ("\x7bpos\x7d", .pos), ("\x7bline\x7d", .line),
   ("\x7bcolumn\x7d", .column), ("\x7boffset\x7d", .offset), ("\x7bcount\x7d", .count)]

def tokenAt (s : Text) : Option (TemplatePart × Text) :=
  (tokens.find? fun t => t.1.isPrefixOf s).map fun t => (t.2, s.drop t.1.length)

/-- Reads at most `fuel` pieces of a template, left to right, taking each token where it starts;
what is left when the fuel runs out stays as it is, code point by code point. -/
def readPieces : Nat → Text → Template
  | 0, s => s.map .literal
  | _, [] => []
  | fuel + 1, c :: rest =>
    match tokenAt (c :: rest) with
    | some (part, after) => part :: readPieces fuel after
    | none => .literal c :: readPieces fuel rest

/-- Reads a template. Every piece takes at least one code point, so the length of the text is
fuel enough. -/
def read (s : Text) : Template :=
  readPieces s.length s

/-- The message a template gives for an error, filled in from left to right; the first piece
that cannot be written is the fault of the whole. -/
def fill (t : Template) (e : ParseError) : Except Fault Text :=
  List.flatten <$> t.mapM (TemplatePart.fill e)

example : (fill (read "at {pos}: {message} ({count}){x}")
    ⟨"m", ["a", "b"], ⟨2, 3, 4⟩⟩).toOption = some "at line 2, column 3: m (2){x}" := by decide +kernel

end Template

end Recipe

end ParserCombinators
