import ParserCombinators.Value
import ParserCombinators.Fault
/-!
Tagged values: a value marked as the left alternative (a failure, by convention) or the right
one (a success), or a value given without a mark. Case analysis takes exactly one branch for a
marked value and faults on an unmarked one, naming its kind.
-/

namespace ParserCombinators

/-- A value marked as one of two alternatives, or unmarked. -/
inductive Tagged where
  | left (v : Value)
  | right (v : Value)
  | plain (v : Value)
deriving Inhabited

namespace Tagged

def isLeft : Tagged → Bool
  | left _ => true
  | _ => false

def isRight : Tagged → Bool
  | right _ => true
  | _ => false

def cases (t : Tagged) (onLeft onRight : Value → β) : Except Fault β :=
  match t with
  | left v => .ok (onLeft v)
  | right v => .ok (onRight v)
  | plain v => .error (.untagged v.kind)

/-- Equality: the same mark and values equal as items, so a marked value that is not a number
equals itself. An unmarked value equals no marked one. -/
def equals : Tagged → Tagged → Bool
  | left a, left b => Value.itemEquals a b
  | right a, right b => Value.itemEquals a b
  | plain a, plain b => Value.itemEquals a b
  | _, _ => false

end Tagged

end ParserCombinators
