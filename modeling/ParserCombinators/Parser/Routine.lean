import ParserCombinators.Parser.Combinators
/-!
Routines: grammars written as a sequence of steps, each of which runs a parser and goes on with
its value. A routine is a tree: it finishes with a result, awaits the value of a parser and
continues with it, or stops with a fault. `Parser.gen` runs a routine step by step from a
state; the first parser that fails ends the run with its failure (its override put on it), and
a routine that ends with a parser runs that parser from the state it reached.

Main statement: `gen_parse_eq_chain` — running a routine is running the chain of `flatMap`s that
the tree spells out (`Routine.chain`).
-/

namespace ParserCombinators

/-- A routine that awaits values of type `σ` from parsers and ends with a result of type `ρ`. -/
inductive Routine (σ ρ : Type) where
  | finish (result : ρ)
  | await (p : Parser σ) (next : σ → Routine σ ρ)
  | raise (fault : Fault)

/-- What a routine for a parser ends with: a value, or a parser to run from the state reached. -/
inductive Ending (β : Type) where
  | value (v : β)
  | parser (p : Parser β)

namespace Routine

def bind : Routine σ ρ → (ρ → Routine σ τ) → Routine σ τ
  | finish r, f => f r
  | await p next, f => await p fun v => (next v).bind f
  | raise x, _ => raise x

instance : Monad (Routine σ) where
  pure := finish
  bind := bind

def ofExcept (r : Except Fault α) (k : α → Routine σ ρ) : Routine σ ρ :=
  match r with
  | .ok a => k a
  | .error x => raise x

def awaitValue (p : Parser σ) : Routine σ σ :=
  await p finish

/-- Runs a routine from a state: each awaited parser runs from the state the previous one left,
with its override put on its failure; the first failure ends the run. -/
def drive : Routine σ (Ending β) → State → Reply β
  | finish (.value v), st => .ok v st
  | finish (.parser p), st => p.parse st
  | await p next, st => (p.adjust (p.parse st)).bindValue fun v rest => drive (next v) rest
  | raise x, _ => .raised x

/-- The chain of parsers that a routine spells out: each awaited parser is flat-mapped into the
chain of the rest. -/
def chain : Routine σ (Ending β) → Parser β
  | finish (.value v) => Parser.pure v
  | finish (.parser p) => p
  | await p next => p.flatMap fun v => chain (next v)
  | raise x => Parser.raise x

@[simp] theorem bind_finish (r : ρ) (f : ρ → Routine σ τ) : (finish r).bind f = f r := rfl

@[simp] theorem bind_raise (x : Fault) (f : ρ → Routine σ τ) :
    (raise x : Routine σ ρ).bind f = raise x := rfl

theorem bind_await (p : Parser σ) (next : σ → Routine σ ρ) (f : ρ → Routine σ τ) :
    (await p next).bind f = await p fun v => (next v).bind f := rfl

end Routine

/-- The parser that runs a routine. It has no name. -/
def Parser.gen (body : Routine σ (Ending β)) : Parser β where
  parse := body.drive

theorem Parser.gen_parse_eq_chain (body : Routine σ (Ending β)) (st : State) :
    (Parser.gen body).parse st = body.chain.parse st := by
  induction body generalizing st with
  | finish r => cases r <;> rfl
  | await p next ih =>
    simp only [Parser.gen, Routine.drive, Routine.chain, Parser.flatMap_parse]
    cases p.adjust (p.parse st) with
    | ok v rest => exact ih v rest
    | failed e => rfl
    | raised x => rfl
  | raise x => rfl

end ParserCombinators
