import ParserCombinators.Recipe.Env
import ParserCombinators.Text.Capital
/-!
Expressions of recipes: literals, variables, and operations on texts, numbers, tuples and
records, evaluated in an environment of named values. Operands are evaluated from left to right,
and each is checked as soon as it has its value, so of two wrong operands the first is reported;
`put` checks its record and key once all three operands have values, and `eq` and `mul` bind
their operands, which must be two, to two names as they are evaluated: a third operand is
evaluated only to find that it is there, and no operand after it is evaluated at all. An operand
of a kind an operation does not take is a malformed recipe; `raise` stops with an error of its
own.

Integers here are integers proper: truth values and doubles are refused where an integer is
wanted. Reading an integer takes an optional minus sign and ASCII digits, at most
`Fault.digitLimit` of them, and writing one refuses more digits than that.
-/

namespace ParserCombinators

namespace Recipe

inductive Expr where
  | lit (v : Value)
  | tuple (items : List Expr)
  | var (name : Value)
  | concat (parts : List Expr)
  | join (e : Expr)
  | upper (e : Expr)
  | lstrip (e chars : Expr)
  | drop (e n : Expr)
  | take (e n : Expr)
  | add (terms : List Expr)
  /-- The product of two integers; there must be exactly two operands. -/
  | mul (factors : List Expr)
  | int (e : Expr)
  | str (e : Expr)
  /-- Whether two values are equal; there must be exactly two operands. -/
  | eq (operands : List Expr)
  | not (e : Expr)
  | len (e : Expr)
  /-- A field of a record, or an item of a tuple or text by position. -/
  | get (e key : Expr)
  | append (e x : Expr)
  | has (e key : Expr)
  | put (e key v : Expr)
  | raise (e : Expr)
  /-- An expression whose evaluation stops with a fault met while reading it. -/
  | fault (f : Fault)
deriving Inhabited

def malformed {α : Type} (reason : Text) : Except Fault α :=
  Except.error (Fault.malformed reason)

/-- The integer of an integer value; truth values and doubles are not integers here. -/
def intOf (what : String) : Value → Except Fault Int
  | .int n => .ok n
  | _ => malformed (what ++ ": expects an integer")

/-- An integer read from an optional minus sign and ASCII digits; `none` for another text, and
a fault for more digits than the conversion limit. -/
def readInteger (s : Text) : Option (Except Fault Int) :=
  let (negative, digits) := match s with
    | c :: rest => if c = '-' then (true, rest) else (false, s)
    | [] => (false, s)
  if digits.isEmpty || !digits.all (·.toChar.isDigit) then none
  else if Fault.digitLimit < digits.length then some (.error (.tooManyDigits digits.length))
  else
    let n : Nat := digits.foldl (fun acc c => acc * 10 + (c.val - '0'.toNat)) 0
    some (.ok (if negative then -(n : Int) else n))

/-- The item of a container at a key: a record field by name, a tuple item or a code point of a
text by a position from 0 to one less than the length. Any other container has no item at any
key. -/
def index (container key : Value) : Except Fault Value :=
  match container with
  | .record fs =>
    match key.unhashable? with
    | some k => .error (.unhashable k)
    | none =>
      match key with
      | .str k =>
        match Value.lookup fs k with
        | some v => .ok v
        | none => malformed "get: missing key"
      | _ => malformed "get: missing key"
  | .tuple xs =>
    match key with
    | .int i => if h : 0 ≤ i ∧ i.toNat < xs.length then .ok (xs.get ⟨i.toNat, h.2⟩)
      else malformed "get: bad index"
    | _ => malformed "get: bad index"
  | .str s =>
    match key with
    | .int i =>
      if h : 0 ≤ i ∧ i.toNat < s.length then .ok (.str [s.get ⟨i.toNat, h.2⟩])
      else malformed "get: bad index"
    | _ => malformed "get: bad index"
  | _ => malformed "get: bad index"

def hasField (fields : List (Text × Value)) (key : Value) : Except Fault Bool :=
  match key.unhashable? with
  | some k => .error (.unhashable k)
  | none =>
    match key with
    | .str k => .ok (fields.any (·.1 == k))
    | _ => .ok false

def length : Value → Except Fault Int
  | .str s => .ok s.length
  | .list xs => .ok xs.length
  | .tuple xs => .ok xs.length
  | .record fs => .ok fs.length
  | _ => malformed "len: expects a string, tuple or record"

def joinTexts (what : String) : List Value → Except Fault Text
  | [] => .ok []
  | v :: vs => do
    let s ← Value.textOf what v
    let rest ← joinTexts what vs
    return s ++ rest

mutual

def eval (env : Env) : Expr → Except Fault Value
  | .lit v => .ok v
  | .tuple items => return .tuple (← evalList env items)
  | .var name => env.find name
  | .concat parts => return .str (← concatTexts env parts)
  | .join e => do
    match ← eval env e with
    | .tuple xs => return .str (← joinTexts "join" xs)
    | _ => malformed "join: expects a sequence"
  | .upper e => return .str (Text.capitals (← Value.textOf "upper" (← eval env e)))
  | .lstrip e chars => do
    let s ← Value.textOf "lstrip" (← eval env e)
    let set ← Value.textOf "lstrip" (← eval env chars)
    return .str (s.dropWhile (set.contains ·))
  | .drop e n => do
    let s ← Value.textOf "drop" (← eval env e)
    let k ← intOf "drop" (← eval env n)
    if k < 0 then malformed "drop: negative count"
    else return .str (s.drop k.toNat)
  | .take e n => do
    let s ← Value.textOf "take" (← eval env e)
    let k ← intOf "take" (← eval env n)
    if k < 0 then malformed "take: negative count"
    else return .str (s.take k.toNat)
  | .add terms => return .int (← evalInts "add" env terms.length terms).sum
  | .mul factors => do
    let (x, y) ← Value.pairOf (← evalInts "mul" env 3 factors)
    return .int (x * y)
  | .int e => do
    match ← eval env e with
    | .str s =>
      match readInteger s with
      | some r => return .int (← r)
      | none => malformed "int: not a decimal integer"
    | _ => malformed "int: expects a string"
  | .str e => do return .str (← writeDecimal (← intOf "str" (← eval env e)))
  | .eq operands => do
    let (x, y) ← Value.pairOf (← evalPrefix env 3 operands)
    return .bool (Value.equals x y)
  | .not e => return .bool (!(← eval env e).truthy)
  | .len e => return .int (← length (← eval env e))
  | .get e key => do
    let c ← eval env e
    index c (← eval env key)
  | .append e x => do
    match ← eval env e with
    | .tuple xs => return .tuple (xs ++ [← eval env x])
    | _ => malformed "append: expects a sequence"
  | .has e key => do
    let c ← eval env e
    let k ← eval env key
    match c with
    | .record fs => return .bool (← hasField fs k)
    | _ => malformed "has: expects a record"
  | .put e key v => do
    let c ← eval env e
    let k ← eval env key
    let w ← eval env v
    match c, k with
    | .record fs, .str name => return .record (Value.put fs name w)
    | _, _ => malformed "put: expects a record and a key"
  | .raise e => do throw (Fault.raised (← Value.textOf "raise" (← eval env e)))
  | .fault f => throw f

def evalList (env : Env) : List Expr → Except Fault (List Value)
  | [] => .ok []
  | e :: es => do
    let v ← eval env e
    return v :: (← evalList env es)

def evalPrefix (env : Env) : Nat → List Expr → Except Fault (List Value)
  | 0, _ => .ok []
  | _, [] => .ok []
  | n + 1, e :: es => do
    let v ← eval env e
    return v :: (← evalPrefix env n es)

/-- The texts of a list of expressions joined, each checked as soon as it is evaluated. -/
def concatTexts (env : Env) : List Expr → Except Fault Text
  | [] => .ok []
  | e :: es => do
    let s ← Value.textOf "concat" (← eval env e)
    return s ++ (← concatTexts env es)

/-- The integers of at most the first `n` of a list of expressions, each checked as soon as it is
evaluated. -/
def evalInts (what : String) (env : Env) : Nat → List Expr → Except Fault (List Int)
  | 0, _ => .ok []
  | _, [] => .ok []
  | n + 1, e :: es => do
    let k ← intOf what (← eval env e)
    return k :: (← evalInts what env n es)

end

end Recipe

end ParserCombinators
