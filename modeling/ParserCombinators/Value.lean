import ParserCombinators.Double
import ParserCombinators.Text.Quoted
/-!
Dynamic values: what recipes compute with and what their parsers return. A value is nothing, a
truth value, an integer, a double, a text, a list, a tuple, or a record of named fields kept in
the order they were first set. Lists are sequences as a request gives them; what recipes compute
holds tuples in their place (`Value.frozen`).

Equality follows the rules of the values themselves, not their layout: truth values, integers and
doubles are equal when they are the same number, lists and tuples item by item (a list never
equals a tuple), and records when they have the same field names with equal values, in any
order. A double that is not a number equals nothing; containers compare their items as the same
value first, and all such doubles are one value, so two of them as items are equal. Truthiness:
nothing, false, zero and empty texts, sequences and records are false.
-/

namespace ParserCombinators

inductive Value where
  | null
  | bool (b : Bool)
  | int (n : Int)
  | float (x : Float)
  | str (s : Text)
  /-- A list of values, as a request gives a sequence. -/
  | list (items : List Value)
  | tuple (items : List Value)
  /-- A record: named fields in the order they were first set, each name once. -/
  | record (fields : List (Text × Value))
deriving Inhabited

namespace Value

/-- The name of the kind of a value, as messages about values of the wrong kind give it. -/
def kind : Value → String
  | null => "NoneType"
  | bool _ => "bool"
  | int _ => "int"
  | float _ => "float"
  | str _ => "str"
  | list _ => "list"
  | tuple _ => "tuple"
  | record _ => "dict"

/-- A truth value or integer as an integer: truth values count as 0 and 1. -/
def asInt? : Value → Option Int
  | bool b => some (if b then 1 else 0)
  | int n => some n
  | _ => none

def isNaN : Value → Bool
  | float x => x.isNaN
  | _ => false

def lookup (fields : List (Text × Value)) (key : Text) : Option Value :=
  (fields.find? (·.1 == key)).map (·.2)

mutual

/-- Equality of values: numbers by value, texts by their code points, lists and tuples item by
item, records by their fields in any order; values of different kinds differ. -/
def equals : Value → Value → Bool
  | null, null => true
  | str a, str b => a == b
  | list xs, list ys => equalsItems xs ys
  | tuple xs, tuple ys => equalsItems xs ys
  | record xs, record ys => xs.length == ys.length && fieldsWithin xs ys
  | float a, float b => a == b
  | float a, b =>
    match b.asInt? with
    | some n => Double.equalsInt a n
    | none => false
  | a, float b =>
    match a.asInt? with
    | some n => Double.equalsInt b n
    | none => false
  | a, b =>
    match a.asInt?, b.asInt? with
    | some m, some n => m == n
    | _, _ => false

/-- Item-by-item equality of two lists of values of the same length; two items that are not a
number are equal. -/
def equalsItems : List Value → List Value → Bool
  | [], [] => true
  | x :: xs, y :: ys => (x.isNaN && y.isNaN || equals x y) && equalsItems xs ys
  | _, _ => false

def fieldsWithin : List (Text × Value) → List (Text × Value) → Bool
  | [], _ => true
  | (k, v) :: rest, ys =>
    (match lookup ys k with
      | some w => v.isNaN && w.isNaN || equals v w
      | none => false) && fieldsWithin rest ys

end

/-- Equality of two values as items of containers: two that are not a number are equal. -/
def itemEquals (a b : Value) : Bool :=
  a.isNaN && b.isNaN || equals a b

/-- Truthiness: nothing, false, zero and empty texts, sequences and records are false, every
other value is true. -/
def truthy : Value → Bool
  | null => false
  | bool b => b
  | int n => n != 0
  | float x => !(x == 0)
  | str s => !s.isEmpty
  | list xs => !xs.isEmpty
  | tuple xs => !xs.isEmpty
  | record fs => !fs.isEmpty

/-- A record with a field set: an existing field keeps its place and takes the new value, a new
field goes last. -/
def put (fields : List (Text × Value)) (key : Text) (v : Value) : List (Text × Value) :=
  if fields.any (·.1 == key) then fields.map fun f => if f.1 == key then (key, v) else f
  else fields ++ [(key, v)]

def intText (n : Int) : String :=
  if n < 0 then "-" ++ toString n.natAbs else toString n.natAbs

mutual

/-- A value with every list made a tuple, inside records and sequences too. -/
def frozen : Value → Value
  | list xs => tuple (frozenItems xs)
  | tuple xs => tuple (frozenItems xs)
  | record fs => record (frozenFields fs)
  | v => v

def frozenItems : List Value → List Value
  | [] => []
  | x :: xs => frozen x :: frozenItems xs

def frozenFields : List (Text × Value) → List (Text × Value)
  | [] => []
  | (k, v) :: fs => (k, frozen v) :: frozenFields fs

end

mutual

/-- The kind of the first part of a value that cannot serve as a key: a list or a record, or a
tuple holding one; nothing for a value that can. -/
def unhashable? : Value → Option String
  | list _ => some "list"
  | record _ => some "dict"
  | tuple xs => unhashableItem? xs
  | _ => none

def unhashableItem? : List Value → Option String
  | [] => none
  | x :: xs =>
    match unhashable? x with
    | some k => some k
    | none => unhashableItem? xs

end

/-- The items that going through a value gives: the items of a list or tuple, the code points of
a text as texts, the field names of a record; other values have none. -/
def members? : Value → Option (List Value)
  | list xs => some xs
  | tuple xs => some xs
  | str s => some (s.map fun c => str [c])
  | record fs => some (fs.map fun f => str f.1)
  | _ => none

mutual

/-- A value in the notation of literals: texts quoted, lists in brackets, tuples in parentheses
with a comma after a single item, records in braces. -/
def literal : Value → Text
  | null => "None"
  | bool b => if b then "True" else "False"
  | int n => intText n
  | float x => Double.repr x
  | str s => Text.quote s
  | list xs => "[" ++ (", " : Text).intercalate (literalItems xs) ++ "]"
  | tuple [x] => "(" ++ literal x ++ ",)"
  | tuple xs => "(" ++ (", " : Text).intercalate (literalItems xs) ++ ")"
  | record fs => "\x7b" ++ (", " : Text).intercalate (literalFields fs) ++ "\x7d"

def literalItems : List Value → List Text
  | [] => []
  | x :: xs => literal x :: literalItems xs

def literalFields : List (Text × Value) → List Text
  | [] => []
  | (k, v) :: fs => (Text.quote k ++ ": " ++ literal v) :: literalFields fs

end

/-- How a value is written as text: a text as itself, any other value as its literal. -/
def display : Value → Text
  | str s => s
  | v => literal v

example : equals (int 1) (float 1.0) = true := by decide
example : equals (bool true) (int 1) = true := by decide
example : equals (tuple [int 1]) (str "1") = false := by decide
example : equals (list [int 1]) (tuple [int 1]) = false := by decide
example : equals (record [("a", int 1), ("b", null)]) (record [("b", null), ("a", int 1)]) = true := by
  decide

end Value

end ParserCombinators
