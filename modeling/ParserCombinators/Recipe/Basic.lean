import ParserCombinators.Recipe.Expr
import ParserCombinators.Recipe.CharTest
import ParserCombinators.Recipe.Template
/-!
Recipes: parsers and routines described as data, so that a grammar can be given without code.
A recipe names a recogniser, a combinator applied to other recipes, a definition by name, or a
routine: a list of steps that await parsers, bind names, branch, loop and finish.

Callbacks are given as a parameter name and a body, an expression for `map` and a recipe for
`flatMap` and record fields; the body is used in the environment of the recipe with the
parameter bound to the argument. Definitions are a value looked up by name: a record of recipes
by field name, or any other value, which has its own rules for what it holds and what a name
finds in it.

A part that could not be read is kept as a node that faults where it is used: `invalid` when the
recipe is built, `invalidAfter` once the recipe it wraps has been built, and `Step.fault` when the
routine reaches the step.
-/

namespace ParserCombinators

open Recipe

mutual

/-- A parser described as data. -/
inductive Recipe where
  | char (c : Expr)
  | string (s : Expr)
  | anyChar
  | satisfy (test : CharTest) (desc : Expr)
  | span (test : CharTest) (desc : Text)
  | pure (v : Expr)
  | fail (message : Expr) (expected : List Expr)
  | record
  | peek
  /-- Succeeds with the current position as a tuple of line, column and offset. -/
  | position
  | claim (v : Expr)
  | trace (label : Text)
  | map (p : Recipe) (param : Value) (body : Expr)
  | flatMap (p : Recipe) (param : Value) (body : Recipe)
  | zip (p q : Recipe)
  | bindParser (p : Recipe) (key : Text) (q : Recipe)
  /-- Stores the value of the parser that a recipe of the record describes. -/
  | bindFn (p : Recipe) (key : Text) (param : Value) (body : Recipe)
  /-- A record field whose function gives a value instead of a parser. -/
  | bindFnValue (p : Recipe) (key : Text) (param : Value) (value : Expr)
  /-- A record field given as a value that is neither parser nor function. -/
  | bindStray (p : Recipe) (key : Text) (v : Value)
  | error (p : Recipe) (message : Expr)
  | error2 (p : Recipe) (template : Template)
  | named (p : Recipe) (name : Text)
  | transform (p : Recipe) (param restParam : Value) (value input : Expr)
  /-- A definition, built each time the parser runs. -/
  | lazy (name : Text)
  /-- A definition, built at once; any value may name it. -/
  | ref (name : Value)
  /-- A routine of steps, under a name (empty for none). -/
  | gen (body : List Recipe.Step) (name : Text)
  /-- A recipe that could not be read; building it stops with the fault met. -/
  | invalid (fault : Fault)
  /-- A recipe whose first part is built before the fault met reading the rest stops the build. -/
  | invalidAfter (p : Recipe) (fault : Fault)

inductive Recipe.Step where
  /-- Awaits the value of a parser, and binds it to a name when one is given. -/
  | await (p : Recipe) (var : Option Value)
  /-- Awaits a value that is not a parser. -/
  | yieldValue (e : Expr)
  | assign (name : Value) (e : Expr)
  /-- Runs one of two lists of steps, by the truthiness of an expression. -/
  | cond (c : Expr) (thn els : List Recipe.Step)
  /-- Runs steps a number of times, binding a name to the round from 0 when one is given. -/
  | times (count : Expr) (var : Option Value) (body : List Recipe.Step)
  /-- Runs steps for each item of a text or tuple bound to a name; a round without a name is a
  malformed step. -/
  | forEach (items : Expr) (var : Option Value) (body : List Recipe.Step)
  | loop (c : Expr) (body : List Recipe.Step)
  | finish (e : Expr)
  /-- Ends the routine with a parser to run from the state reached. -/
  | handOff (p : Recipe)
  | raise (e : Expr)
  /-- A step that stops the routine with a fault met while reading it. -/
  | fault (f : Fault)

end

instance : Inhabited Recipe := ⟨.anyChar⟩

instance : Inhabited Recipe.Step := ⟨.fault (.malformed "")⟩

/-- The definitions recipes refer to by name: a record of recipes given as values, read when used. -/
abbrev Recipe.Definitions := Value

end ParserCombinators
