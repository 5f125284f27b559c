import ParserCombinators.Reply
/-!
Parsers: a parse function from states to replies, a display name, and an optional message that
stands for every failure of the parser. The message is set only by `Parser.error`, whose parse
function already reports it, so combinators that apply it to a reply (`Parser.adjust`) change
nothing for parsers built with this library; it is kept because a parser may be built by hand.

This module holds the parsers that read nothing (`pure`, `fail`, `raise`), the error annotations
(`error`, `error2`) and naming. Sequencing is in `Parser.Combinators`.
-/

namespace ParserCombinators

structure Parser (α : Type) where
  parse : State → Reply α
  name : Text := []
  /-- The message that stands for every failure of the parser, when there is one. -/
  override : Option Text := none

instance : Inhabited (Parser α) := ⟨⟨fun _ => .raised (.malformed []), [], none⟩⟩

namespace Parser

/-- How a parser is displayed: its name in angle brackets, or the bare brackets if it has none. -/
def describe (p : Parser α) : Text :=
  if p.name.isEmpty then "<Parsec>" else "<Parsec " ++ p.name ++ ">"

/-- A reply of `p` with the override of `p` put on its failure. -/
def adjust (p : Parser α) : Reply α → Reply α
  | .failed e =>
    match p.override with
    | some m => .failed { e with message := m }
    | none => .failed e
  | r => r

def run (p : Parser α) (text : Text) : Reply α :=
  p.adjust (p.parse (State.initial text))

def pure (v : α) : Parser α where
  parse st := .ok v st

def fail (message : Text) (expected : List Text := []) : Parser α where
  parse st := .failed ⟨message, expected, st.pos⟩

def raise (fault : Fault) : Parser α where
  parse _ := .raised fault

/-- The parser with every failure message replaced by `message`; the accepted alternatives and
the position stay. The name stays, and `message` becomes the override. -/
def error (p : Parser α) (message : Text) : Parser α where
  parse st :=
    match p.parse st with
    | .failed e => .failed { e with message := message }
    | r => r
  name := p.name
  override := some message

/-- The parser with every failure message computed from the failure itself; a computation that
faults stops the run with its fault. The name stays and the override is cleared. -/
def error2 (p : Parser α) (onError : ParseError → Except Fault Text) : Parser α where
  parse st :=
    match p.parse st with
    | .failed e =>
      match onError e with
      | .ok m => .failed { e with message := m }
      | .error x => .raised x
    | r => r
  name := p.name

/-- The same parser under another name; parse function and override stay. -/
def named (p : Parser α) (name : Text) : Parser α :=
  { p with name := name }

@[simp] theorem adjust_ok (p : Parser α) (v : α) (st : State) :
    p.adjust (.ok v st) = .ok v st := rfl

@[simp] theorem adjust_raised (p : Parser α) (x : Fault) : p.adjust (.raised x) = .raised x := rfl

theorem adjust_failed_of_none (p : Parser α) (h : p.override = none) (e : ParseError) :
    p.adjust (.failed e) = .failed e := by
  simp [adjust, h]

@[simp] theorem pure_parse (v : α) (st : State) : (pure v).parse st = .ok v st := rfl

@[simp] theorem fail_parse (m : Text) (ex : List Text) (st : State) :
    (fail m ex : Parser α).parse st = .failed ⟨m, ex, st.pos⟩ := rfl

@[simp] theorem named_parse (p : Parser α) (n : Text) : (p.named n).parse = p.parse := rfl

@[simp] theorem named_override (p : Parser α) (n : Text) :
    (p.named n).override = p.override := rfl

end Parser

end ParserCombinators
