import ParserCombinators.ParseError
import ParserCombinators.Value.Access
/-!
Parse errors and positions given as values rather than built by parsers. A position is a list of
three integers, line, column and offset, and a position that is not given is the start of a
text. The message must be a text, and the accepted alternatives are whatever going through the
given value yields, each of which must be a text; a source to render against must be a text too.
A value of another kind makes the request that gives it malformed, except a value of
alternatives that has no items at all, which is a fault of going through it.

The parts are checked one after another, and of two wrong parts the first checked is reported.
A failure report takes the message first, then the alternatives, then the position
(`ofValuesMessageFirst`); an error given to be shown takes the alternatives, then the position,
then the message (`ofValuesMessageLast`).
-/

namespace ParserCombinators

/-- A position given as a value: a list of line, column and offset, each an integer. A position
that is not given is the start of a text. -/
def SourcePos.ofValue : Option Value → Except Fault SourcePos
  | none => .ok SourcePos.start
  | some (.list [.int line, .int column, .int offset]) => .ok ⟨line, column, offset⟩
  | some _ => .error (.malformed "pos must be [line, column, offset]")

namespace ParseError

def messageOfValue : Option Value → Except Fault Text
  | none => .error (.malformed "missing field")
  | some m => Value.textOf "message" m

def alternativesOfValue : Option Value → Except Fault (List Text)
  | none => .ok []
  | some v => do (← v.membersOf).mapM (Value.textOf "expected")

/-- A parse error given as values, checked as a failure report: the message, then the
alternatives, then the position. -/
def ofValuesMessageFirst (message expected pos : Option Value) : Except Fault ParseError := do
  let m ← messageOfValue message
  let alternatives ← alternativesOfValue expected
  return ⟨m, alternatives, ← SourcePos.ofValue pos⟩

/-- A parse error given as values, checked as an error to be shown: the alternatives, then the
position, then the message. -/
def ofValuesMessageLast (message expected pos : Option Value) : Except Fault ParseError := do
  let alternatives ← alternativesOfValue expected
  let p ← SourcePos.ofValue pos
  return ⟨← messageOfValue message, alternatives, p⟩

def renderValue (e : ParseError) (source : Value) : Except Fault Text := do
  e.render (← Value.textOf "source" source)

/-- Both orders agree on parts that are all well formed. -/
theorem ofValuesMessageFirst_eq_ofValuesMessageLast (m : Text) (ex : List Text) (p : SourcePos) :
    ofValuesMessageFirst (some (.str m)) (some (.list (ex.map Value.str)))
        (some (.list [.int p.line, .int p.column, .int p.offset])) =
      ofValuesMessageLast (some (.str m)) (some (.list (ex.map Value.str)))
        (some (.list [.int p.line, .int p.column, .int p.offset])) := by
  simp only [ofValuesMessageFirst, ofValuesMessageLast, messageOfValue, alternativesOfValue,
    SourcePos.ofValue, Value.textOf, Value.membersOf, Value.members?]
  rfl

end ParseError

end ParserCombinators
