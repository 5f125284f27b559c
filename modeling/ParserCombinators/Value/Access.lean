import ParserCombinators.Value
import ParserCombinators.Fault
/-!
Reaching into values: an item by position, the items met going through a value, two values bound
to two names, and the order of texts. Each names the fault of a value that does not allow it: a
position past the end of a sequence, a record asked for a position (a field it lacks, so the
request that holds it is malformed), a value with no items, a count of values other than two.

`Value.depth` bounds how deeply values are nested, so that a walk down a value's parts may take
it as its fuel.
-/

namespace ParserCombinators

namespace Value

/-- The item at position `i`: of a list or tuple, or a code point of a text as a text. -/
def itemAt (v : Value) (i : Nat) : Except Fault Value :=
  match v with
  | list xs =>
    match xs[i]? with
    | some x => .ok x
    | none => .error (.noItem "list")
  | tuple xs =>
    match xs[i]? with
    | some x => .ok x
    | none => .error (.noItem "tuple")
  | str s =>
    match s[i]? with
    | some c => .ok (str [c])
    | none => .error (.noItem "string")
  | record _ => .error (.malformed "missing field")
  | other => .error (.notSubscriptable other.kind)

/-- The text of a text value; `what` names the value in the complaint about another value, which
makes the request that holds it malformed. -/
def textOf (what : String) : Value → Except Fault Text
  | str s => .ok s
  | _ => .error (.malformed (what ++ ": expects a string"))

def membersOf (v : Value) : Except Fault (List Value) :=
  match v.members? with
  | some xs => .ok xs
  | none => .error (.notIterable v.kind)

def pairOf {α : Type} : List α → Except Fault (α × α)
  | [a, b] => .ok (a, b)
  | xs => if xs.length < 2 then .error (.tooFewItems 2 xs.length) else .error (.tooManyItems 2)

/-- Text order: code point by code point, a proper prefix first. -/
def textLe : Text → Text → Bool
  | [], _ => true
  | _ :: _, [] => false
  | a :: as, b :: bs => if a = b then textLe as bs else a < b

mutual

/-- How deeply a value is nested: one for a value without parts, one more than its deepest part
for a sequence or record. -/
def depth : Value → Nat
  | list xs => depthItems xs + 1
  | tuple xs => depthItems xs + 1
  | record fs => depthFields fs + 1
  | _ => 1

def depthItems : List Value → Nat
  | [] => 0
  | x :: xs => max (depth x) (depthItems xs)

def depthFields : List (Text × Value) → Nat
  | [] => 0
  | (_, v) :: fs => max (depth v) (depthFields fs)

end

example : textLe "a" "ab" = true := by decide
example : textLe "b" "ab" = false := by decide

end Value

end ParserCombinators
