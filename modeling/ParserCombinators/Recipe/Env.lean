import ParserCombinators.Value.Access
/-!
Environments of recipes: values bound to names. A name is any value that can serve as a key
(nothing, a truth value, a number or a text), and two names are the same name when they are
equal as items, so `true`, `1` and `1.0` name one variable. A sequence or record given as a name
cannot be a key, and binding or looking it up is a fault.

Routines bind names one at a time (`Env.set`). Callbacks bind their parameters as keywords
(`Env.extend`): every parameter name must be a key, and then every one must be a text.

The main fact: a text bound by `set` is found again with the value bound (`find_set_str`).
-/

namespace ParserCombinators

namespace Recipe

/-- Values bound to names; each name at most once. -/
abbrev Env := List (Value × Value)

namespace Env

def get? (env : Env) (name : Value) : Option Value :=
  (env.find? fun b => b.1.itemEquals name).map (·.2)

/-- The value bound to a name. A name that cannot be a key is a fault, and so is a name bound to
nothing. -/
def find (env : Env) (name : Value) : Except Fault Value :=
  match name.unhashable? with
  | some k => .error (.unhashable k)
  | none =>
    match env.get? name with
    | some v => .ok v
    | none => .error (.malformed ("unbound variable " ++ name.display))

/-- The environment with `name` bound to `v`: in place of the binding of the first equal name,
which keeps its place, or after the other bindings. -/
def insert : Env → Value → Value → Env
  | [], name, v => [(name, v)]
  | b :: rest, name, v => if b.1.itemEquals name then (b.1, v) :: rest else b :: insert rest name v

def set (env : Env) (name v : Value) : Except Fault Env :=
  match name.unhashable? with
  | some k => .error (.unhashable k)
  | none => .ok (env.insert name v)

def setIf (env : Env) (name : Option Value) (v : Value) : Except Fault Env :=
  match name with
  | some n => env.set n v
  | none => .ok env

/-- The environment with the parameters of a callback bound as keywords, later ones in place of
equal earlier ones. Every name must be a key, and then every name must be a text. -/
def extend (env : Env) (params : List (Value × Value)) : Except Fault Env :=
  match params.findSome? (fun p => p.1.unhashable?) with
  | some k => .error (.unhashable k)
  | none =>
    if params.all (fun p => p.1 matches .str _) then
      .ok (params.foldl (fun e p => e.insert p.1 p.2) env)
    else .error .keywordsNotText

theorem get?_insert_self (env : Env) (name v : Value) (h : name.itemEquals name = true) :
    (env.insert name v).get? name = some v := by
  induction env with
  | nil => simp [insert, get?, h]
  | cons b rest ih =>
    by_cases hb : b.1.itemEquals name = true
    · simp [insert, get?, hb]
    · simp only [get?] at ih
      simp [insert, get?, hb, ih]

theorem itemEquals_str (s : Text) : (Value.str s).itemEquals (.str s) = true := by
  simp [Value.itemEquals, Value.equals]

theorem find_set_str (env : Env) (n : Text) (v : Value) :
    ((env.set (.str n) v).bind fun e => e.find (.str n)) = .ok v := by
  simp [set, find, Value.unhashable?, Except.bind, get?_insert_self _ _ _ (itemEquals_str n)]

end Env

end Recipe

end ParserCombinators
