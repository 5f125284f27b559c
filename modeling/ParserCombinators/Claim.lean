import ParserCombinators.Parser.Basic
import ParserCombinators.Value
/-!
Claimed readings: a success that states what it read as a value rather than as a text. Claiming
a false value (nothing, an empty text, zero, …) reads nothing, and claiming a text reads it as
`State.consume` does. A tuple of texts claims whichever of them the input starts with, the first
in order; the state then drops as many code points as the tuple has items and moves the column by
that many, and a line break among the items leaves the position underivable. Any other value is
no claim at all.
-/

namespace ParserCombinators

namespace State

/-- Whether the input starts with one of the texts of a tuple, tried in order; an item that is
not a text, reached before a match, is a fault. -/
def startsWithAny (input : Text) : List Value → Except Fault Bool
  | [] => .ok false
  | .str s :: rest => if s <+: input then .ok true else startsWithAny input rest
  | v :: _ => .error (.claimItem v.kind)

def claim (st : State) (claim : Value) : Except Fault State :=
  if !claim.truthy then .ok st
  else
    match claim with
    | .str s => st.consume s
    | .tuple items => do
      if !(← startsWithAny st.input items) then
        throw (Fault.showing [st.pos] (.notAtFrontOf (Value.literal (.tuple items)) st.pos))
      if items.any (Value.equals (.str "\n")) then throw (.noAttribute "tuple" "rfind")
      let n := items.length
      return ⟨st.input.drop n, ⟨st.pos.line, st.pos.column + n, st.pos.offset + n⟩⟩
    | other => .error (.notClaimable other.kind)

theorem claim_str (st : State) (s : Text) : st.claim (.str s) = st.consume s := by
  cases s with
  | nil => rfl
  | cons c cs => simp [claim, Value.truthy]

end State

def Reply.claimed (value : α) (st : State) (claim : Value) : Reply α :=
  match st.claim claim with
  | .ok rest => .ok value rest
  | .error f => .raised f

def Parser.claim (v : Value) : Parser Value where
  parse st := Reply.claimed v st v

end ParserCombinators
