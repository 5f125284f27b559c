import ParserCombinators.Parser.Basic
/-!
Sequencing parsers. `map`, `flatMap` and `transform` run their receiver, put its override on its
failure, and keep its name; `zip` takes both replies as they are and has no name. A callback
that faults stops the run with that fault.

The parsers here that read nothing but look at the state are `peek` (the input that is left),
`position` and `trace`; `consume` claims to have read a given text.
-/

namespace ParserCombinators

namespace Parser

def tryMap (p : Parser α) (f : α → Except Fault β) : Parser β where
  parse st :=
    (p.adjust (p.parse st)).bindValue fun v rest =>
      match f v with
      | .ok w => .ok w rest
      | .error x => .raised x
  name := p.name

def map (p : Parser α) (f : α → β) : Parser β :=
  p.tryMap fun v => .ok (f v)

def flatMap (p : Parser α) (f : α → Parser β) : Parser β where
  parse st := (p.adjust (p.parse st)).bindValue fun v rest => (f v).parse rest
  name := p.name

/-- Runs two parsers in turn and pairs their values. Failures are returned as they are. -/
def zip (p : Parser α) (q : Parser β) : Parser (α × β) where
  parse st :=
    (p.parse st).bindValue fun a rest =>
      (q.parse rest).bindValue fun b last => .ok (a, b) last

/-- Sends the value and the state after a success through `f`. The state `f` gives is trusted
only for its input, which must be a suffix of the input it was given; its position is derived
again by `State.reanchor`. -/
def transform (p : Parser α) (f : α → State → Except Fault (β × State)) : Parser β where
  parse st :=
    (p.adjust (p.parse st)).bindValue fun v rest =>
      match f v rest with
      | .ok (w, next) =>
        match rest.reanchor next with
        | .ok anchored => .ok w anchored
        | .error x => .raised x
      | .error x => .raised x
  name := p.name

def lazy (build : Unit → Parser α) : Parser α where
  parse st := (build ()).parse st

def peek : Parser Text where
  parse st := .ok st.input st

def position : Parser SourcePos where
  parse st := .ok st.pos st

def consume (text : Text) : Parser Text where
  parse st := Reply.succeed text st text

/-- Marks a point of a grammar under a label, for a reader of the grammar; it succeeds with no
value and reads nothing. -/
def trace (_label : Text) : Parser Unit where
  parse st := .ok () st

@[simp] theorem flatMap_name (p : Parser α) (f : α → Parser β) : (p.flatMap f).name = p.name :=
  rfl

@[simp] theorem flatMap_override (p : Parser α) (f : α → Parser β) :
    (p.flatMap f).override = none := rfl

theorem flatMap_parse (p : Parser α) (f : α → Parser β) (st : State) :
    (p.flatMap f).parse st = (p.adjust (p.parse st)).bindValue fun v rest => (f v).parse rest :=
  rfl

theorem zip_parse (p : Parser α) (q : Parser β) (st : State) :
    (p.zip q).parse st =
      (p.parse st).bindValue fun a rest => (q.parse rest).bindValue fun b last => .ok (a, b) last :=
  rfl

end Parser

end ParserCombinators
