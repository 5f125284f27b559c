import ParserCombinators.Parser.Combinators
import ParserCombinators.Value
/-!
Records built field by field. `Parser.record` starts with the empty record, and
`Parser.bindField p key next` runs `p` for a record, then the parser that `next` gives for that
record, and stores its value under `key`: an existing field keeps its place, a new one goes last.

The checks come in the order the steps run: `next` may refuse to give a parser once `p` has
succeeded, a failure of the field parser is returned as it is, and only a successful field meets
a value of `p` that is not a record.
-/

namespace ParserCombinators

namespace Parser

def record : Parser Value :=
  pure (.record [])

/-- Runs `p` for a record, then the parser `next` gives for it, and stores that parser's value
under `key`. The name of `p` stays. -/
def bindField (p : Parser Value) (key : Text) (next : Value → Except Fault (Parser Value)) :
    Parser Value where
  parse st :=
    (p.adjust (p.parse st)).bindValue fun r rest =>
      match next r with
      | .error x => .raised x
      | .ok q =>
        (q.parse rest).bindValue fun v last =>
          match r with
          | .record fields => .ok (.record (Value.put fields key v)) last
          | other => .raised (.notARecord other.kind)
  name := p.name

end Parser

end ParserCombinators
