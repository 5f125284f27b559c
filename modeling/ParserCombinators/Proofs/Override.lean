import ParserCombinators.Proofs.Sequencing
/-!
Overrides that are never stale. The override of a parser is set only by `Parser.error`, whose
parse function already reports it, copied only by `Parser.named` together with the parse
function, and cleared by every other constructor, so on a built parser it is the message of every
failure (`Built.overrideHolds`). Putting it on a reply then changes nothing: running a text is
calling the parser on its start, and a failure comes out of `zip`, which takes its first
parser's reply as it is, exactly as it comes out of `map`, `flatMap`, `bindField`, `transform`
and a routine, which put the override on it.

Main statement: `override_never_stale`.
-/

namespace ParserCombinators

namespace Parser

variable {st : State} {e : ParseError}

/-- After a first parser that succeeds, `zip` returns the failure of the second as it is, and
`flatMap` into `map` puts the override of the second on it; the two agree when that override
holds. -/
theorem OverrideHolds.zip_flatMap_map_of_failed {p : Parser β} {q : Parser α} (hq : q.OverrideHolds)
    {start : State} {v : β} (hp : p.parse start = .ok v st) (hf : q.parse st = .failed e) :
    (p.zip q).parse start = .failed e ∧
      (p.flatMap fun x => q.map fun y => (x, y)).parse start = .failed e := by
  have hq' : q.adjust (q.parse st) = .failed e := (hq.adjust_parse st).trans hf
  constructor
  · rw [zip_parse, hp, Reply.bindValue_ok, hf, Reply.bindValue_failed]
  · rw [flatMap_parse, hp, adjust_ok, Reply.bindValue_ok, map_parse, hq',
      Reply.bindValue_failed]

theorem OverrideHolds.run_eq {p : Parser α} (hp : p.OverrideHolds) (s : Text) :
    p.run s = p.parse (State.initial s) :=
  hp.adjust_parse (State.initial s)

/-- The override of a built parser is never stale. It is the message of every failure of the
parser, so putting it on a reply changes nothing and running a text is calling the parser on its
start. A failure of a built parser therefore comes out of `zip`, which skips the override, exactly
as it comes out of `map`, `flatMap`, `transform`, a routine awaiting it and `bindField`, which put
the override on it, and so does a failure of a built second parser of `zip` and of its `flatMap`
form. -/
theorem override_never_stale :
    (∀ {α : Type} (P : Parser α), P.Built →
      P.OverrideHolds ∧ (∀ st, P.adjust (P.parse st) = P.parse st) ∧
      ∀ s, P.run s = P.parse (State.initial s)) ∧
    (∀ {α β : Type} (P : Parser α), P.Built → ∀ st e, P.parse st = .failed e →
      (∀ q : Parser β, (P.zip q).parse st = .failed e) ∧
      (∀ f : α → β, (P.map f).parse st = .failed e) ∧
      (∀ f : α → Parser β, (P.flatMap f).parse st = .failed e) ∧
      (∀ f : α → State → Except Fault (β × State), (P.transform f).parse st = .failed e) ∧
      (∀ next : α → Routine α (Ending β), (gen (.await P next)).parse st = .failed e) ∧
      ∀ (p : Parser β) start v, p.parse start = .ok v st →
        (p.zip P).parse start = .failed e ∧
          (p.flatMap fun x => P.map fun y => (x, y)).parse start = .failed e) ∧
    (∀ P : Parser Value, P.Built → ∀ st e, P.parse st = .failed e →
      ∀ key next, (P.bindField key next).parse st = .failed e) := by
  refine ⟨?_, ?_, ?_⟩
  · intro α P hP
    have hholds : P.OverrideHolds := hP.overrideHolds
    exact ⟨hholds, hholds.adjust_parse, hholds.run_eq⟩
  · intro α β P hP st e hf
    -- every combinator that puts the override on the reply sees the failure unchanged
    have hadj : P.adjust (P.parse st) = .failed e := (hP.overrideHolds.adjust_parse st).trans hf
    refine ⟨zip_parse_of_failed hf, fun f => tryMap_parse_of_failed hadj _,
      flatMap_parse_of_failed hadj, transform_parse_of_failed hadj,
      gen_await_parse_of_failed hadj, ?_⟩
    intro p start v hp
    exact hP.overrideHolds.zip_flatMap_map_of_failed hp hf
  · intro P hP st e hf key next
    exact bindField_parse_of_failed ((hP.overrideHolds.adjust_parse st).trans hf) key next

/-- A character under a message of its own, failing at the end of the input: its failure carries
the message, and `zip`, `map` and a record step report it alike. -/
theorem anyChar_error_never_stale :
    let P := anyChar.error "a character"
    let st : State := ⟨[], SourcePos.start⟩
    let e : ParseError := ⟨"a character", ["any character"], SourcePos.start⟩
    P.Built ∧ P.parse st = .failed e ∧ (P.map fun _ => Value.null).Built ∧
      P.run [] = P.parse st ∧ (P.zip anyChar).parse st = .failed e ∧
      ((P.map fun _ => Value.null).bindField "k" fun _ => .ok (pure .null)).parse st =
        .failed e := by
  intro P st e
  have hP : P.Built := .error _ (.satisfy _ _)
  have hV : (P.map fun _ => Value.null).Built := .tryMap _ hP
  have hf : P.parse st = .failed e := rfl
  have hfV : (P.map fun _ => Value.null).parse st = .failed e :=
    (override_never_stale.2.1 P hP st e hf).2.1 _
  exact ⟨hP, hf, hV, (override_never_stale.1 P hP).2.2 [],
    (override_never_stale.2.1 P hP st e hf).1 anyChar,
    override_never_stale.2.2 _ hV st e hfV _ _⟩

end Parser

end ParserCombinators
