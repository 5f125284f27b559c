import ParserCombinators.Recipe.Read
import ParserCombinators.Parser.Char
import ParserCombinators.Parser.Record
import ParserCombinators.Parser.Routine
import ParserCombinators.Claim
/-!
Building parsers from recipes. A recipe is built in an environment of named values and against
definitions; what a recipe computes from expressions (the text of `char`, the message of `error`,
…) is computed when it is built, and callbacks bind their parameters and build or evaluate their
bodies each time they are called. A part that cannot be built stops the build with a fault;
inside a callback or a routine the fault is raised when that part is reached during a run.

Definitions are a value: a name is looked for in it as membership (`Definitions.holds`) and then
taken from it as an entry (`Definitions.entry`), each by the rules of the kind of value it is, and
the entry is read as a recipe where it is used. `ref` does both when it is built, `lazy` looks
for its name when it is built and takes and builds the entry each time it runs.

Routines run their steps with the environment threaded through: `finish` and `handOff` end the
whole routine, from inside loops too, and falling off the end finishes with nothing.

Two limits keep every build finite: definitions may be opened inside each other at most
`nestingLimit` deep, and a `loop` step runs at most `loopLimit` rounds.
-/

namespace ParserCombinators

namespace Recipe

/-- How deeply definitions may be opened inside each other. -/
def nestingLimit : Nat := 100000

/-- How many rounds a `loop` step may run. -/
def loopLimit : Nat := 1000000

/-- How control leaves a list of steps: on to what follows with the environment it left, or out
of the routine with its ending. -/
inductive Flow where
  | next (env : Env)
  | done (ending : Ending Value)

def orRaise : Except Fault (Parser Value) → Parser Value
  | .ok p => p
  | .error x => Parser.raise x

def occursIn (needle : Text) : Text → Bool
  | [] => needle.isEmpty
  | c :: rest => needle.isPrefixOf (c :: rest) || occursIn needle rest

/-- Whether definitions hold a name: a field name of a record, an item of a sequence, a piece of a
text. A record cannot be searched for a name that cannot be a key, a text only for a text, and
other values hold nothing. -/
def Definitions.holds (defs name : Value) : Except Fault Bool :=
  match defs with
  | .record fs =>
    match name.unhashable? with
    | some k => .error (.unhashable k)
    | none =>
      match name with
      | .str n => .ok (fs.any (·.1 == n))
      | _ => .ok false
  | .list xs => .ok (xs.any (Value.itemEquals name))
  | .tuple xs => .ok (xs.any (Value.itemEquals name))
  | .str s =>
    match name with
    | .str n => .ok (occursIn n s)
    | other => .error (.notTextOperand other.kind)
  | other => .error (.noMembers other.kind)

/-- The item of a sequence at an integer position, counted from the end when negative; a position
must be a machine index. -/
def itemAtIndex (container : String) (xs : List Value) (name : Value) : Except Fault Value :=
  match name.asInt? with
  | none => .error (.notAnIndex container name.kind)
  | some i =>
    if i < -ParseError.indexBound ∨ ParseError.indexBound ≤ i then .error .positionTooLarge else
    let j := if i < 0 then i + xs.length else i
    if h : 0 ≤ j ∧ j.toNat < xs.length then .ok (xs.get ⟨j.toNat, h.2⟩)
    else .error (.noItem container)

/-- The entry of definitions under a name: the field of a record, the item of a sequence at a
position; a text has no entries under texts, and other values none at all. -/
def Definitions.entry (defs name : Value) : Except Fault Value :=
  match defs with
  | .record fs =>
    match name with
    | .str n =>
      match Value.lookup fs n with
      | some r => .ok r
      | none => .error (.malformed "missing field")
    | _ => .error (.malformed "missing field")
  | .list xs => itemAtIndex "list" xs name
  | .tuple xs => itemAtIndex "tuple" xs name
  | .str _ => .error (.notAnIndex "str" name.kind)
  | other => .error (.notSubscriptable other.kind)

def textValue (s : Text) : Value := .str s

def charValue (c : CodePoint) : Value := .str [c]

def positionValue (p : SourcePos) : Value := .tuple [.int p.line, .int p.column, .int p.offset]

def Flow.continue (k : Env → Routine Value Flow) : Flow → Routine Value Flow
  | .next env => k env
  | .done e => .finish (.done e)

mutual

/-- The parser a recipe describes, in an environment, with `depth` more definitions that may be
opened. -/
def build (defs : Definitions) (depth : Nat) (env : Env) : Recipe → Except Fault (Parser Value)
  | .char e => do
    let s ← Value.textOf "char" (← eval env e)
    return (Parser.satisfy (fun x => [x] == s) (Text.quote s)).map charValue
  | .string e => do
    let s ← Value.textOf "string" (← eval env e)
    return (Parser.string s).map textValue
  | .anyChar => return Parser.anyChar.map charValue
  | .satisfy test desc => do
    let d ← Value.textOf "desc" (← eval env desc)
    return (Parser.satisfy test.test d).map charValue
  | .span test desc => return (Parser.span test.test desc).map textValue
  | .pure e => return Parser.pure (← eval env e)
  | .fail message expected => do
    let m ← Value.textOf "fail" (← eval env message)
    let ex ← expected.mapM fun e => do Value.textOf "expected" (← eval env e)
    return Parser.fail m ex
  | .record => return Parser.record
  | .peek => return Parser.peek.map textValue
  | .position => return Parser.position.map positionValue
  | .claim e => do
    let c ← Value.textOf "consume" (← eval env e)
    return Parser.claim (.str c)
  | .trace label => return (Parser.trace label).map fun _ => .null
  | .map p param body => do
    let q ← build defs depth env p
    return q.tryMap fun v => do eval (← env.extend [(param, v)]) body
  | .flatMap p param body => do
    let q ← build defs depth env p
    return q.flatMap fun v => orRaise (do build defs depth (← env.extend [(param, v)]) body)
  | .zip p q => do
    let a ← build defs depth env p
    let b ← build defs depth env q
    return (a.zip b).map fun (x, y) => .tuple [x, y]
  | .bindParser p key q => do
    let a ← build defs depth env p
    let b ← build defs depth env q
    return a.bindField key fun _ => .ok b
  | .bindFn p key param body => do
    let a ← build defs depth env p
    return a.bindField key fun r => do build defs depth (← env.extend [(param, r)]) body
  | .bindFnValue p key param value => do
    let a ← build defs depth env p
    return a.bindField key fun r => do
      let v ← eval (← env.extend [(param, r)]) value
      throw (Fault.fieldNotParser key v.kind)
  | .bindStray p _ v => do
    let _ ← build defs depth env p
    throw (Fault.notBindable v.kind)
  | .error p message => do
    let a ← build defs depth env p
    let m ← Value.textOf "message" (← eval env message)
    return a.error m
  | .error2 p template => do
    let a ← build defs depth env p
    return a.error2 template.fill
  | .named p name => do
    let a ← build defs depth env p
    return a.named name
  | .transform p param restParam value input => do
    let a ← build defs depth env p
    return a.transform fun v st => do
      let inner ← env.extend [(param, v), (restParam, .str st.input)]
      let w ← eval inner value
      let s ← Value.textOf "transform input" (← eval inner input)
      return (w, ⟨s, st.pos⟩)
  | .lazy name => do
    if !(← Definitions.holds defs (.str name)) then throw (.malformed ("undefined " ++ name))
    return Parser.lazy fun _ =>
      match depth with
      | 0 => Parser.raise .tooDeep
      | d + 1 => orRaise (do build defs d env (ofValue (← Definitions.entry defs (.str name))))
  | .ref name => do
    if !(← Definitions.holds defs name) then throw (.malformed ("undefined " ++ name.display))
    let r ← Definitions.entry defs name
    match depth with
    | 0 => throw .tooDeep
    | d + 1 => build defs d env (ofValue r)
  | .gen body name =>
    let routine := (steps defs depth env body).bind fun
      | .next _ => .finish (.value .null)
      | .done e => .finish e
    return (Parser.gen routine).named name
  | .invalid f => throw f
  | .invalidAfter p f => do
    let _ ← build defs depth env p
    throw f
termination_by r => (depth, sizeOf r, 0)

def steps (defs : Definitions) (depth : Nat) (env : Env) : List Recipe.Step → Routine Value Flow
  | [] => .finish (.next env)
  | s :: rest => (step defs depth env s).bind (Flow.continue fun env' => steps defs depth env' rest)
termination_by ss => (depth, sizeOf ss, 0)

def step (defs : Definitions) (depth : Nat) (env : Env) : Recipe.Step → Routine Value Flow
  | .await p var =>
    Routine.ofExcept (build defs depth env p) fun q =>
      .await q fun v => Routine.ofExcept (env.setIf var v) fun e => .finish (.next e)
  | .yieldValue e => Routine.ofExcept (eval env e) fun v => .raise (.notAwaitable v.kind)
  | .assign name e => Routine.ofExcept (do env.set name (← eval env e)) fun e => .finish (.next e)
  | .cond c thn els =>
    Routine.ofExcept (eval env c) fun v =>
      if v.truthy then steps defs depth env thn else steps defs depth env els
  | .times count var body =>
    Routine.ofExcept (do intOf "repeat" (← eval env count)) fun n =>
      rounds defs depth var body 0 n.toNat env
  | .forEach items var body =>
    Routine.ofExcept (eval env items) fun
      | .str s => each defs depth var body (s.map charValue) env
      | .tuple xs => each defs depth var body xs env
      | .list xs => each defs depth var body xs env
      | _ => .raise (.malformed "for_each: expects str or sequence")
  | .loop c body => whileTrue defs depth c body loopLimit env
  | .finish e => Routine.ofExcept (eval env e) fun v => .finish (.done (.value v))
  | .handOff p => Routine.ofExcept (build defs depth env p) fun q => .finish (.done (.parser q))
  | .raise e => Routine.ofExcept (do Value.textOf "raise" (← eval env e)) fun s => .raise (.raised s)
  | .fault f => .raise f
termination_by s => (depth, sizeOf s, 0)

/-- The routine of steps run once for each of a list of values, bound to a name; a round without
a name faults. -/
def each (defs : Definitions) (depth : Nat) (var : Option Value) (body : List Recipe.Step) :
    List Value → Env → Routine Value Flow
  | [], env => .finish (.next env)
  | x :: xs, env =>
    match var with
    | none => .raise (.malformed "missing field")
    | some name =>
      Routine.ofExcept (env.set name x) fun bound =>
        (steps defs depth bound body).bind
          (Flow.continue fun env' => each defs depth var body xs env')
termination_by xs => (depth, sizeOf body, xs.length)

def rounds (defs : Definitions) (depth : Nat) (var : Option Value) (body : List Recipe.Step)
    (round : Nat) : Nat → Env → Routine Value Flow
  | 0, env => .finish (.next env)
  | count + 1, env =>
    Routine.ofExcept (env.setIf var (.int round)) fun bound =>
      (steps defs depth bound body).bind
        (Flow.continue fun env' => rounds defs depth var body (round + 1) count env')
termination_by count => (depth, sizeOf body, count)

/-- The routine of steps run while an expression is true, for at most `fuel` rounds. -/
def whileTrue (defs : Definitions) (depth : Nat) (c : Expr) (body : List Recipe.Step) :
    Nat → Env → Routine Value Flow
  | 0, _ => .raise .endlessLoop
  | fuel + 1, env =>
    Routine.ofExcept (eval env c) fun v =>
      if v.truthy then
        (steps defs depth env body).bind
          (Flow.continue fun env' => whileTrue defs depth c body fuel env')
      else .finish (.next env)
termination_by fuel => (depth, sizeOf body, fuel)

end

end Recipe

end ParserCombinators
