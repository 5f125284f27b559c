import ParserCombinators.Position
import ParserCombinators.Text.Quoted
/-!
Faults: the ways a run can stop without a parse failure. A parse failure is an answer about the
input; a fault means that the parsers, the callbacks given to them or the states handed between
them broke a rule of the library. Each cause carries what its message needs, and
`Fault.message` is the one place where the wording lives.

Integers are written in decimal up to a digit limit. A message is written when its fault arises,
so a fault whose message would show a position too long to write arises as the fault of an
integer too long to write (`Fault.showing`).
-/

namespace ParserCombinators

/-- Why a run stopped without an answer. -/
inductive Fault where
  /-- Text was claimed as read from a state whose input does not start with it. -/
  | notAtFront (text : Text) (at_ : SourcePos)
  /-- A state handed back by a callback does not lie after the state it was given. -/
  | unreachable (target source : SourcePos)
  /-- An error was rendered at a line before the first line of its source. -/
  | lineOutOfRange
  /-- An item of a sequence was asked at a position beyond any machine index: a line of a
  rendered error far before the first, or an entry of definitions. -/
  | positionTooLarge
  /-- A caret line was asked to be wider than any machine index. -/
  | indexTooLarge
  /-- A caret line was asked to be wider than memory can hold. -/
  | outOfMemory
  /-- A record step was given a value of the named kind, which is not a record. -/
  | notARecord (kind : String)
  /-- A routine awaited a value of the named kind, which is not a parser. -/
  | notAwaitable (kind : String)
  /-- The field function of a record step returned a value of the named kind, not a parser. -/
  | fieldNotParser (key : Text) (kind : String)
  /-- A record step was built from a value of the named kind, neither a parser nor a function. -/
  | notBindable (kind : String)
  /-- Case analysis on a tagged value met a value of the named kind, which carries no tag. -/
  | untagged (kind : String)
  /-- A callback raised an error of its own with this message. -/
  | raised (message : Text)
  | invalidLiteral (text : Text)
  | tooManyDigits (count : Nat)
  /-- A description given as data is not well formed; noticed when that part is used. -/
  | malformed (reason : Text)
  /-- A claimed reading given as a tuple of texts, shown as a literal, none of which the input
  starts with. -/
  | notAtFrontOf (shown : Text) (at_ : SourcePos)
  /-- A reading was claimed by a value of the named kind, neither a text nor a tuple of texts. -/
  | notClaimable (kind : String)
  /-- A tuple claimed as read holds an item of the named kind, which is not a text. -/
  | claimItem (kind : String)
  | noAttribute (kind attr : String)
  | noItem (kind : String)
  /-- A value of the first named kind was indexed by a value of the second, which is no index
  of it. -/
  | notAnIndex (container kind : String)
  /-- A text was searched for a value of the named kind, which is not a text. -/
  | notTextOperand (kind : String)
  | keywordsNotText
  | notSubscriptable (kind : String)
  | notIterable (kind : String)
  | noMembers (kind : String)
  | tooManyItems (expected : Nat)
  | tooFewItems (expected got : Nat)
  | unhashable (kind : String)
  | integerTooLong
  /-- Definitions of a grammar were opened inside each other more deeply than the nesting limit. -/
  | tooDeep
  /-- A loop of a routine ran more rounds than the loop limit. -/
  | endlessLoop
deriving DecidableEq, Repr, Inhabited

namespace Fault

/-- The most digits a numeral may have to be read as a number. -/
def digitLimit : Nat := 4300

def fitsDigitLimit (n : Int) : Bool :=
  n.natAbs < Nat.pow 10 digitLimit

/-- The longest quoted text that a message about an invalid numeral shows. -/
def literalShown : Nat := 200

def message : Fault → Text
  | notAtFront text at_ =>
    "Cannot consume " ++ Text.quote text ++ " at " ++ at_.text ++ ": input does not start with it"
  | unreachable target source =>
    "State at " ++ target.text ++ " is not reachable from " ++ source.text ++ " by consuming input"
  | lineOutOfRange => "list index out of range"
  | positionTooLarge => "cannot fit 'int' into an index-sized integer"
  | indexTooLarge => "cannot fit 'int' into an index-sized integer"
  | outOfMemory => ""
  | notARecord kind => "'" ++ kind ++ "' object is not a mapping"
  | notAwaitable kind => "Expected a Parsec to be yielded, got " ++ kind
  | fieldNotParser key kind => "bind field " ++ Text.quote key ++ ": expected a Parsec, got " ++ kind
  | notBindable kind => "bind expects a Parsec or a callable, got " ++ kind
  | untagged kind => "Expected Left or Right, got " ++ kind
  | raised msg => msg
  | invalidLiteral text =>
    "invalid literal for int() with base 10: " ++ (Text.quote text).take literalShown
  | tooManyDigits count =>
    "Exceeds the limit (" ++ toString digitLimit ++ " digits) for integer string conversion: value has " ++
      toString count ++ " digits; use sys.set_int_max_str_digits() to increase the limit"
  | malformed reason => reason
  | notAtFrontOf shown at_ =>
    "Cannot consume " ++ shown ++ " at " ++ at_.text ++ ": input does not start with it"
  | notClaimable kind => "startswith first arg must be str or a tuple of str, not " ++ kind
  | claimItem kind => "tuple for startswith must only contain str, not " ++ kind
  | noAttribute kind attr => "'" ++ kind ++ "' object has no attribute '" ++ attr ++ "'"
  | noItem kind => kind ++ " index out of range"
  | notAnIndex container kind =>
    if container = "str" then "string indices must be integers, not '" ++ kind ++ "'"
    else container ++ " indices must be integers or slices, not " ++ kind
  | notTextOperand kind => "'in <string>' requires string as left operand, not " ++ kind
  | keywordsNotText => "keywords must be strings"
  | notSubscriptable kind => "'" ++ kind ++ "' object is not subscriptable"
  | notIterable kind => "'" ++ kind ++ "' object is not iterable"
  | noMembers kind => "argument of type '" ++ kind ++ "' is not iterable"
  | tooManyItems expected => "too many values to unpack (expected " ++ toString expected ++ ")"
  | tooFewItems expected got =>
    "not enough values to unpack (expected " ++ toString expected ++ ", got " ++ toString got ++ ")"
  | unhashable kind => "unhashable type: '" ++ kind ++ "'"
  | integerTooLong =>
    "Exceeds the limit (" ++ toString digitLimit ++ " digits) for integer string conversion; " ++
      "use sys.set_int_max_str_digits() to increase the limit"
  | tooDeep => "maximum recursion depth exceeded"
  | endlessLoop => "loop limit exceeded"

end Fault

def writeDecimal (n : Int) : Except Fault String :=
  if Fault.fitsDigitLimit n then .ok (toString n) else .error .integerTooLong

namespace SourcePos

/-- Whether a position can be written as text: its line and column, which are all that is written
of it, each have at most `Fault.digitLimit` digits. -/
def writable (p : SourcePos) : Bool :=
  Fault.fitsDigitLimit p.line && Fault.fitsDigitLimit p.column

def write (p : SourcePos) : Except Fault String :=
  if p.writable then .ok p.text else .error .integerTooLong

end SourcePos

/-- A fault whose message shows positions, as it is met: its message is written when the fault
arises, so a position that cannot be written gives the fault of an integer too long to write in
its place. -/
def Fault.showing (positions : List SourcePos) (f : Fault) : Fault :=
  if positions.all SourcePos.writable then f else .integerTooLong

theorem Fault.showing_of_writable (positions : List SourcePos) (f : Fault)
    (h : positions.all SourcePos.writable = true) : Fault.showing positions f = f := by
  simp [Fault.showing, h]

end ParserCombinators
