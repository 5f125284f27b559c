import ParserCombinators.Recipe.Basic
/-!
Reading recipes from values. A recipe is a record with one kind field (`char`, `map`, `gen`, …)
and the fields that kind takes; when several kind fields are present the first in
`Recipe.kinds` wins. An expression is a record with exactly one field naming the operation, a
sequence of expressions (a tuple), or any other value as a literal. A routine is a list of step
records. A character test is a class name or a record with exactly one of `in`, `not_in`,
`range` and `not`, and it is checked whole when it is read.

Reading never fails: a part that cannot be read becomes a node that faults where it is used
(`Recipe.invalid`, `Recipe.invalidAfter`, `Step.fault`, `Expr.fault`), so that a malformed part
is reported only when a build or a run reaches it, after every part that comes before it. The
order is that of building: a record step checks its key and a function given as its field
before it builds the record parser, and builds a parser given as its field, or finds that no
field is given, after it; the other combinators build the parser they wrap first and then check
their own fields, and a routine checks that its steps are a list before it checks its name or
label. Operands of operations are taken as
given: a position past the end of the operand list, a record asked for a position and a value
that has no items are faults of the operation.

Every reader takes fuel; one more than `Value.depth` of the value read is enough, as each reader
goes one level down the value for each unit of fuel, and the characters of a text or the names of
a record, met going through it, are read without going further.
-/

namespace ParserCombinators

namespace Recipe

def field? (v : Value) (k : Text) : Option Value :=
  match v with
  | .record fs => Value.lookup fs k
  | _ => none

def broken (reason : Text) : Fault :=
  .malformed reason

/-- An expression of an operation, given the reader of its operands. A name that holds a surrogate
names no operation. -/
def Expr.ofOperation (r : Value → Expr) (op : Text) (a : Value) : Expr :=
  let arg (i : Nat) : Expr :=
    match a.itemAt i with
    | .ok x => r x
    | .error f => .fault f
  let many (f : List Expr → Expr) : Expr :=
    match a.membersOf with
    | .ok xs => f (xs.map r)
    | .error x => .fault x
  match op.toString? with
  | some "lit" => .lit a.frozen
  | some "var" => .var a
  | some "concat" => many .concat
  | some "join" => .join (r a)
  | some "upper" => .upper (r a)
  | some "lstrip" => .lstrip (arg 0) (arg 1)
  | some "drop" => .drop (arg 0) (arg 1)
  | some "take" => .take (arg 0) (arg 1)
  | some "add" => many .add
  | some "mul" => many .mul
  | some "int" => .int (r a)
  | some "str" => .str (r a)
  | some "eq" => many .eq
  | some "not" => .not (r a)
  | some "len" => .len (r a)
  | some "get" => .get (arg 0) (arg 1)
  | some "append" => .append (arg 0) (arg 1)
  | some "has" => .has (arg 0) (arg 1)
  | some "put" => .put (arg 0) (arg 1) (arg 2)
  | some "raise" => .raise (r a)
  | _ => .fault (broken ("unknown expression " ++ op))

def Expr.read : Nat → Value → Expr
  | 0, _ => .fault (broken "expression nested too deeply")
  | fuel + 1, v =>
    match v with
    | .list xs => .tuple (xs.map (Expr.read fuel))
    | .tuple xs => .tuple (xs.map (Expr.read fuel))
    | .record [(op, a)] => Expr.ofOperation (Expr.read fuel) op a
    | .record _ => .fault (broken "expression must be an object with one key")
    | other => .lit other

/-- A character test read from a value: a class name, or a record with exactly one field, `in`
or `not_in` holding a text, `range` holding two texts as its first two items, or `not` holding a
test. A record of one other field is named by that field; anything else is shown as it is
written. -/
def CharTest.read : Nat → Value → Except Fault CharTest
  | 0, _ => .error (broken "predicate nested too deeply")
  | fuel + 1, v =>
    let unknown (shown : Text) : Except Fault CharTest := .error (broken ("unknown predicate " ++ shown))
    match v with
    | .str name =>
      match name.toString? with
      | some "any" => .ok .any
      | some "none" => .ok .none
      | some "digit" => .ok .digit
      | some "alpha" => .ok .alpha
      | some "alnum" => .ok .alnum
      | some "space" => .ok .space
      | _ => unknown v.display
    | .record [(key, arg)] =>
      match key.toString? with
      | some "in" => return .among (← Value.textOf "in" arg)
      | some "not_in" => return .notAmong (← Value.textOf "not_in" arg)
      | some "range" => do
        let lo ← Value.textOf "range" (← arg.itemAt 0)
        let hi ← Value.textOf "range" (← arg.itemAt 1)
        return .range lo hi
      | some "not" => return .negate (← CharTest.read fuel arg)
      | _ => unknown key
    | _ => unknown v.display

/-- The kind fields of recipes, in the order they are looked for. -/
def kinds : List String :=
  ["char", "string", "any_char", "satisfy", "span", "pure", "fail", "do", "peek", "position",
   "consume", "trace", "map", "flat_map", "rshift", "zip", "and", "bind", "error2", "error_with",
   "error", "named", "transform", "lazy", "ref", "gen", "generate_label", "generate"]

/-- The kind fields of steps, in the order they are looked for. -/
def stepKinds : List String :=
  ["yield", "yield_from", "yield_value", "set", "if", "repeat", "for_each", "while",
   "return_parser", "return", "raise"]

/-- The parameter and body of a callback under the field `f`: a record with a `body`, whose
`param` defaults to `dflt`. -/
def lambda (v : Value) (dflt : Text) : Except Fault (Value × Value) :=
  match field? v "f" with
  | none => .error (broken "missing field")
  | some f =>
    match field? f "body" with
    | some body => .ok ((field? f "param").getD (.str dflt), body)
    | none => .error (broken "lambda must be \x7bparam, body\x7d")

/-- A text field of a record, or the fault of one that is missing (with no default) or not a
text. -/
def textField (v : Value) (k : String) (dflt : Option Text) : Except Fault Text :=
  match field? v k, dflt with
  | some (.str s), _ => .ok s
  | some _, _ => .error (broken (k ++ ": expects a string"))
  | none, some d => .ok d
  | none, none => .error (broken "missing field")

/-- A record step of `p` under `key`, by the field given: a parser under `other`, a function under
`other_fn` (a record with a `body`, giving a parser, or the value of `value` when it has one), or
a plain value under `other_value`. A function that is no record has no way to look up its
parameter. With none of the three, the step is missing its field once `p` is built. -/
def bindOf (rp : Value → Recipe) (re : Value → Expr) (p : Recipe) (key : Text) (v : Value) :
    Recipe :=
  match field? v "other", field? v "other_fn", field? v "other_value" with
  | some q, _, _ => .bindParser p key (rp q)
  | _, some f, _ =>
    match f with
    | .record _ =>
      let param := (field? f "param").getD (.str "rec")
      match field? f "body", field? f "value" with
      | none, _ => .invalid (broken "missing field")
      | some _, some e => .bindFnValue p key param (re e)
      | some body, none => .bindFn p key param (rp body)
    | other => .invalid (.noAttribute other.kind "get")
  | _, _, some w => .bindStray p key w.frozen
  | _, _, _ => .invalidAfter p (broken "missing field")

def ofKind (rp : Value → Recipe) (rs : Value → List Recipe.Step) (re : Value → Expr)
    (rt : Value → Except Fault CharTest) (kind : String) (arg v : Value) : Recipe :=
  let wrapped (k : Recipe → Recipe) : Recipe := k (rp arg)
  let part (i : Nat) : Recipe :=
    match arg.itemAt i with
    | .ok x => rp x
    | .error f => .invalid f
  let routine (k : List Recipe.Step → Recipe) : Recipe :=
    match arg with
    | .list _ => k (rs arg)
    | _ => .invalid (broken "gen: expects a list of steps")
  match kind with
  | "char" => .char (re arg)
  | "string" => .string (re arg)
  | "any_char" => .anyChar
  | "satisfy" =>
    match rt arg with
    | .ok t => .satisfy t ((field? v "desc").elim (.lit (.str "character")) re)
    | .error f => .invalid f
  | "span" =>
    match rt arg, textField v "desc" (some "span") with
    | .error f, _ => .invalid f
    | .ok _, .error f => .invalid f
    | .ok t, .ok d => .span t d
  | "pure" => .pure (re arg)
  | "fail" =>
    let expected := match field? v "expected" with
      | none => []
      | some e =>
        match e.membersOf with
        | .ok xs => xs.map re
        | .error f => [.fault f]
    .fail (re arg) expected
  | "do" => .record
  | "peek" => .peek
  | "position" => .position
  | "consume" => .claim (re arg)
  | "trace" =>
    match arg with
    | .str s => .trace s
    | _ => .invalid (broken "trace: expects a string")
  | "map" => wrapped fun p =>
    match lambda v "x" with
    | .ok (param, body) => .map p param (re body)
    | .error f => .invalidAfter p f
  | "flat_map" | "rshift" => wrapped fun p =>
    match lambda v "x" with
    | .ok (param, body) => .flatMap p param (rp body)
    | .error f => .invalidAfter p f
  | "zip" | "and" => .zip (part 0) (part 1)
  | "bind" =>
    match textField v "key" none with
    | .ok key => bindOf rp re (rp arg) key v
    | .error f => .invalid f
  | "error2" | "error_with" => wrapped fun p =>
    match textField v "template" none with
    | .ok t => .error2 p (Template.read t)
    | .error f => .invalidAfter p f
  | "error" => wrapped fun p =>
    match field? v "message" with
    | some m => .error p (re m)
    | none => .invalidAfter p (broken "missing field")
  | "named" => wrapped fun p =>
    match textField v "name" none with
    | .ok n => .named p n
    | .error f => .invalidAfter p f
  | "transform" => wrapped fun p =>
    let param := (field? v "param").getD (.str "v")
    let restParam := (field? v "rest_param").getD (.str "rest")
    .transform p param restParam ((field? v "value").elim (.var param) re)
      ((field? v "input").elim (.var restParam) re)
  | "lazy" =>
    match arg with
    | .str name => .lazy name
    | _ => .invalid (broken "lazy: expects a string")
  | "ref" => .ref arg
  | "gen" => routine fun body => .gen body ""
  | "generate_label" =>
    routine fun body =>
      match textField v "label" none with
      | .ok label => .gen body label
      | .error f => .invalid f
  | _ =>
    routine fun body =>
      match textField v "name" (some "fn") with
      | .ok name => .gen body name
      | .error f => .invalid f

def bodyOf (rs : Value → List Recipe.Step) (v : Value) (k : String) : List Recipe.Step :=
  match field? v k with
  | some b => rs b
  | none => [.fault (broken "missing field")]

def Step.ofKind (rp : Value → Recipe) (rs : Value → List Recipe.Step) (re : Value → Expr)
    (kind : String) (arg v : Value) : Recipe.Step :=
  match kind with
  | "yield" | "yield_from" => .await (rp arg) (field? v "let")
  | "yield_value" => .yieldValue (re arg)
  | "set" =>
    match field? v "expr" with
    | some e => .assign arg (re e)
    | none => .fault (broken "missing field")
  | "if" => .cond (re arg) ((field? v "then").elim [] rs) ((field? v "else").elim [] rs)
  | "repeat" => .times (re arg) (field? v "var") (bodyOf rs v "body")
  | "for_each" => .forEach (re arg) (field? v "var") (bodyOf rs v "body")
  | "while" => .loop (re arg) (bodyOf rs v "body")
  | "return" => .finish (re arg)
  | "return_parser" => .handOff (rp arg)
  | _ => .raise (re arg)

/-- The kind field of a record that comes first in a list of kinds, with its value. -/
def kindOf (ks : List String) (v : Value) : Option (String × Value) :=
  match ks.find? (fun (k : String) => (field? v k).isSome) with
  | some k => (field? v k).map (k, ·)
  | none => none

mutual

def read : Nat → Value → Recipe
  | 0, _ => .invalid (broken "recipe nested too deeply")
  | fuel + 1, v =>
    match v with
    | .record _ =>
      match kindOf kinds v with
      | some (k, arg) =>
        ofKind (read fuel) (readSteps fuel) (Expr.read fuel) (CharTest.read fuel) k arg v
      | none => .invalid (broken "unknown parser")
    | _ => .invalid (broken "parser must be an object")

def readStep : Nat → Value → Recipe.Step
  | 0, _ => .fault (broken "step nested too deeply")
  | fuel + 1, v =>
    match v with
    | .record _ =>
      match kindOf stepKinds v with
      | some (k, arg) => Step.ofKind (read fuel) (readSteps fuel) (Expr.read fuel) k arg v
      | none => .fault (broken "unknown step")
    | _ => .fault (broken "step must be an object")

def readSteps : Nat → Value → List Recipe.Step
  | 0, _ => [.fault (broken "steps nested too deeply")]
  | fuel + 1, v =>
    match v.membersOf with
    | .ok xs => xs.map (readStep fuel)
    | .error f => [.fault f]

end

def ofValue (v : Value) : Recipe :=
  read (v.depth + 1) v

end Recipe

end ParserCombinators
