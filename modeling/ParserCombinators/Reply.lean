import ParserCombinators.ParseError
/-!
Replies: what running a parser on a state gives. A parser succeeds with a value and the state
after it, fails with a parse error, or stops on a fault. `Reply.succeed` is the one way a
recogniser reports what it read, so that input and position move together.
-/

namespace ParserCombinators

inductive Reply (α : Type) where
  | ok (value : α) (rest : State)
  | failed (err : ParseError)
  | raised (fault : Fault)
deriving DecidableEq, Inhabited

namespace Reply

/-- Success with `value` after reading `text` from the front of `st`. A text that the input does
not start with is a fault. -/
def succeed (value : α) (st : State) (text : Text) : Reply α :=
  match st.consume text with
  | .ok rest => .ok value rest
  | .error f => .raised f

def failure (message : Text) (expected : List Text) (pos : SourcePos) : Reply α :=
  .failed ⟨message, expected, pos⟩

def bindValue (r : Reply α) (f : α → State → Reply β) : Reply β :=
  match r with
  | .ok v rest => f v rest
  | .failed e => .failed e
  | .raised x => .raised x

def isOk : Reply α → Bool
  | .ok _ _ => true
  | _ => false

@[simp] theorem bindValue_ok (v : α) (rest : State) (f : α → State → Reply β) :
    (Reply.ok v rest).bindValue f = f v rest := rfl

@[simp] theorem bindValue_failed (e : ParseError) (f : α → State → Reply β) :
    (Reply.failed e).bindValue f = .failed e := rfl

@[simp] theorem bindValue_raised (x : Fault) (f : α → State → Reply β) :
    (Reply.raised x : Reply α).bindValue f = .raised x := rfl

theorem bindValue_eq_ok {r : Reply α} {f : α → State → Reply β} {v : β} {st : State}
    (h : r.bindValue f = .ok v st) : ∃ a rest, r = .ok a rest ∧ f a rest = .ok v st := by
  cases r with
  | ok a rest => exact ⟨a, rest, rfl, h⟩
  | failed e => cases h
  | raised x => cases h

theorem succeed_nil (value : α) (st : State) : succeed value st [] = .ok value st := rfl

end Reply

end ParserCombinators
