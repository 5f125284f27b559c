import ParserCombinators.Claim
import ParserCombinators.Parser.Char
import ParserCombinators.Parser.Record
import ParserCombinators.Parser.Routine
/-!
The parsers the library builds. `Parser.Built` is the least family of parsers that holds the
recognisers, the parsers that read nothing, and is closed under the annotations and the
combinators, whatever callbacks they are given. A callback that raises is the parser
`Parser.raise`, and a callback that gives parsers must give built ones. A routine's parser is
built when the parser it awaits first is built and so is the routine's parser for every value it
may be sent: the parsers a routine awaits are then built, however long it runs.

`char`, `anyChar`, the empty record and `map` are instances of `satisfy`, `pure` and `tryMap`.
The raw parsers that claim what they read are `consume` and `claim` of a text; a claim of any
other value is no parser of the library.

Every built parser keeps its override true to its failures (`Built.overrideHolds`): the override
is set only by `error`, whose parse function reports it, and `named` copies it together with the
parse function.
-/

namespace ParserCombinators

namespace Parser

/-- The parsers built from the library's recognisers and combinators. -/
inductive Built : {α : Type} → Parser α → Prop
  | satisfy (pred : CodePoint → Bool) (desc : Text) : Built (satisfy pred desc)
  | string (s : Text) : Built (string s)
  | span (pred : CodePoint → Bool) (desc : Text) : Built (span pred desc)
  | pure (v : α) : Built (pure v)
  | fail (message : Text) (expected : List Text) : Built (fail message expected : Parser α)
  | raise (fault : Fault) : Built (raise fault : Parser α)
  | peek : Built peek
  | position : Built position
  | consume (text : Text) : Built (consume text)
  | claimText (text : Text) : Built (claim (.str text))
  | trace (label : Text) : Built (trace label)
  | tryMap {p : Parser α} (f : α → Except Fault β) : Built p → Built (p.tryMap f)
  | flatMap {p : Parser α} {f : α → Parser β} : Built p → (∀ v, Built (f v)) →
      Built (p.flatMap f)
  | zip {p : Parser α} {q : Parser β} : Built p → Built q → Built (p.zip q)
  | bindField {p : Parser Value} (key : Text) {next : Value → Except Fault (Parser Value)} :
      Built p → (∀ r q, next r = .ok q → Built q) → Built (p.bindField key next)
  | error {p : Parser α} (message : Text) : Built p → Built (p.error message)
  | error2 {p : Parser α} (onError : ParseError → Except Fault Text) : Built p →
      Built (p.error2 onError)
  | named {p : Parser α} (name : Text) : Built p → Built (p.named name)
  | transform {p : Parser α} (f : α → State → Except Fault (β × State)) : Built p →
      Built (p.transform f)
  | lazy {build : Unit → Parser α} : Built (build ()) → Built (lazy build)
  | genValue (v : β) : Built (gen (σ := σ) (.finish (.value v)))
  | genParser {p : Parser β} : Built p → Built (gen (σ := σ) (.finish (.parser p)))
  | genAwait {p : Parser σ} {next : σ → Routine σ (Ending β)} : Built p →
      (∀ v, Built (gen (next v))) → Built (gen (.await p next))
  | genRaise (fault : Fault) : Built (gen (σ := σ) (β := β) (.raise fault))

/-- The override of a parser, when it has one, is the message of every failure it gives. -/
def OverrideHolds (p : Parser α) : Prop :=
  ∀ m, p.override = some m → ∀ st e, p.parse st = .failed e → e.message = m

theorem OverrideHolds.of_none {p : Parser α} (h : p.override = none) : p.OverrideHolds := by
  intro m hm
  rw [h] at hm
  cases hm

theorem OverrideHolds.adjust_parse {p : Parser α} (h : p.OverrideHolds) (st : State) :
    p.adjust (p.parse st) = p.parse st := by
  cases hr : p.parse st with
  | ok v next => rfl
  | raised x => rfl
  | failed e =>
    cases ho : p.override with
    | none => exact adjust_failed_of_none p ho e
    | some m =>
      have hm : e.message = m := h m ho st e hr
      simp [adjust, ho, ← hm]

theorem error_overrideHolds (p : Parser α) (message : Text) : (p.error message).OverrideHolds := by
  intro m hm st e he
  cases hm
  cases hr : p.parse st <;> simp [error, hr] at he
  rw [← he]

theorem Built.overrideHolds {p : Parser α} (h : p.Built) : p.OverrideHolds := by
  induction h
  case error message _ _ => exact error_overrideHolds _ message
  case named ih => exact ih
  all_goals exact .of_none rfl

end Parser

end ParserCombinators
