import ParserCombinators.Proofs.Laws
/-!
Sequences after their first parser. Every combinator that runs a parser first and goes on with
its value (`tryMap`, `map`, `flatMap`, `zip`, `bindField`, `transform`, a routine awaiting it)
stops with the failure of that parser, once its override is put on it, and with its fault; and
after a success it runs the rest from the state reached, on the value given, as if that value
had been given there by `pure`. Later proofs go through these lemmas instead of unfolding the
combinators.
-/

namespace ParserCombinators

namespace Parser

variable {st : State} {e : ParseError}

/-! ### A failure of the first parser ends every sequence -/

section FirstFails

variable {α β : Type} {p : Parser α}

theorem tryMap_parse_of_failed (h : p.adjust (p.parse st) = .failed e)
    (f : α → Except Fault β) : (p.tryMap f).parse st = .failed e := by
  simp only [tryMap, h, Reply.bindValue_failed]

theorem flatMap_parse_of_failed (h : p.adjust (p.parse st) = .failed e) (f : α → Parser β) :
    (p.flatMap f).parse st = .failed e := by
  rw [flatMap_parse, h, Reply.bindValue_failed]

theorem transform_parse_of_failed (h : p.adjust (p.parse st) = .failed e)
    (f : α → State → Except Fault (β × State)) : (p.transform f).parse st = .failed e := by
  simp only [transform, h, Reply.bindValue_failed]

theorem gen_await_parse_of_failed (h : p.adjust (p.parse st) = .failed e)
    (next : α → Routine α (Ending β)) : (gen (.await p next)).parse st = .failed e := by
  simp only [gen, Routine.drive, h, Reply.bindValue_failed]

theorem zip_parse_of_failed (h : p.parse st = .failed e) (q : Parser β) :
    (p.zip q).parse st = .failed e := by
  rw [zip_parse, h, Reply.bindValue_failed]

theorem bindField_parse_of_failed {p : Parser Value} (h : p.adjust (p.parse st) = .failed e)
    (key : Text) (next : Value → Except Fault (Parser Value)) :
    (p.bindField key next).parse st = .failed e := by
  simp only [bindField, h, Reply.bindValue_failed]

theorem tryMap_parse_of_raised {x : Fault} (h : p.parse st = .raised x) (f : α → Except Fault β) :
    (p.tryMap f).parse st = .raised x := by
  simp only [tryMap, h, adjust_raised, Reply.bindValue_raised]

theorem flatMap_parse_of_raised {x : Fault} (h : p.parse st = .raised x) (f : α → Parser β) :
    (p.flatMap f).parse st = .raised x := by
  rw [flatMap_parse, h, adjust_raised, Reply.bindValue_raised]

theorem map_parse_of_raised {x : Fault} (h : p.parse st = .raised x) (g : α → β) :
    (p.map g).parse st = .raised x :=
  tryMap_parse_of_raised h _

end FirstFails

/-! ### A success of the first parser hands the same value to every sequence -/

section FirstSucceeds

variable {α β : Type} {p : Parser α} {rest : State} {v : α}

theorem flatMap_parse_of_ok (h : p.parse st = .ok v rest) (f : α → Parser β) :
    (p.flatMap f).parse st = (f v).parse rest := by
  rw [flatMap_parse, h, adjust_ok, Reply.bindValue_ok]

theorem tryMap_parse_of_ok (h : p.parse st = .ok v rest) (f : α → Except Fault β) :
    (p.tryMap f).parse st =
      match f v with
      | .ok w => .ok w rest
      | .error x => .raised x := by
  cases hf : f v <;> simp only [tryMap, h, adjust_ok, Reply.bindValue_ok, hf]

theorem error_parse_of_ok (h : p.parse st = .ok v rest) (message : Text) :
    (p.error message).parse st = .ok v rest := by
  simp only [error, h]

theorem map_parse_of_ok (h : p.parse st = .ok v rest) (g : α → β) :
    (p.map g).parse st = .ok (g v) rest := by
  rw [map_parse, h, adjust_ok, Reply.bindValue_ok]

theorem zip_parse_of_ok (h : p.parse st = .ok v rest) (q : Parser β) :
    (p.zip q).parse st = ((pure v).zip q).parse rest := by
  rw [zip_parse, zip_parse, h, pure_parse]

theorem transform_parse_of_ok (h : p.parse st = .ok v rest)
    (f : α → State → Except Fault (β × State)) :
    (p.transform f).parse st = ((pure v).transform f).parse rest := by
  simp only [transform, h, pure_parse, adjust_ok, Reply.bindValue_ok]

theorem gen_await_parse_of_ok (h : p.parse st = .ok v rest) (next : α → Routine α (Ending β)) :
    (gen (.await p next)).parse st = (gen (next v)).parse rest := by
  simp only [gen, Routine.drive, h, adjust_ok, Reply.bindValue_ok]

theorem bindField_parse_of_ok {p : Parser Value} {v : Value} (h : p.parse st = .ok v rest)
    (key : Text) (next : Value → Except Fault (Parser Value)) :
    (p.bindField key next).parse st = ((pure v).bindField key next).parse rest := by
  simp only [bindField, h, pure_parse, adjust_ok, Reply.bindValue_ok]

end FirstSucceeds

/-! ### What the reply of a sequence says of its first parser

A sequence succeeds only after its first parser succeeded, and faults only when that parser
faulted or what came after it did. The override put on the first parser's reply changes failures
only, so it plays no part here. -/

section Inversion

variable {α β : Type} {p : Parser α} {next : State}

theorem adjust_eq_ok_iff {r : Reply α} {v : α} : p.adjust r = .ok v next ↔ r = .ok v next := by
  cases r with
  | failed e => cases ho : p.override <;> simp [adjust, ho]
  | _ => rfl

theorem adjust_eq_raised_iff {r : Reply α} {x : Fault} : p.adjust r = .raised x ↔ r = .raised x := by
  cases r with
  | failed e => cases ho : p.override <;> simp [adjust, ho]
  | _ => rfl

theorem flatMap_parse_eq_ok {f : α → Parser β} {w : β} (h : (p.flatMap f).parse st = .ok w next) :
    ∃ v mid, p.parse st = .ok v mid ∧ (f v).parse mid = .ok w next := by
  rw [flatMap_parse] at h
  obtain ⟨v, mid, hp, hf⟩ := Reply.bindValue_eq_ok h
  exact ⟨v, mid, adjust_eq_ok_iff.mp hp, hf⟩

theorem flatMap_parse_eq_raised {f : α → Parser β} {x : Fault}
    (h : (p.flatMap f).parse st = .raised x) :
    p.parse st = .raised x ∨ ∃ v mid, p.parse st = .ok v mid ∧ (f v).parse mid = .raised x := by
  rw [flatMap_parse] at h
  cases hp : p.parse st with
  | ok v mid =>
    rw [hp, adjust_ok, Reply.bindValue_ok] at h
    exact .inr ⟨v, mid, rfl, h⟩
  | failed e =>
    -- the failure, with or without the override on it, is no fault
    cases ho : p.override <;> simp [hp, adjust, ho] at h
  | raised y =>
    rw [hp, adjust_raised, Reply.bindValue_raised] at h
    exact .inl (congrArg Reply.raised (Reply.raised.inj h))

theorem tryMap_parse_eq_ok {f : α → Except Fault β} {w : β}
    (h : (p.tryMap f).parse st = .ok w next) : ∃ v, p.parse st = .ok v next ∧ f v = .ok w := by
  obtain ⟨v, mid, hp, hf⟩ := Reply.bindValue_eq_ok h
  refine ⟨v, ?_, ?_⟩ <;> cases hv : f v <;> simp_all [adjust_eq_ok_iff]

theorem tryMap_parse_eq_raised {f : α → Except Fault β} {x : Fault}
    (h : (p.tryMap f).parse st = .raised x) :
    p.parse st = .raised x ∨ ∃ v mid, p.parse st = .ok v mid ∧ f v = .error x := by
  cases hp : p.parse st with
  | ok v mid =>
    rw [tryMap_parse_of_ok hp] at h
    cases hv : f v <;> simp_all
  | failed e =>
    cases ho : p.override <;> simp [tryMap, hp, adjust, ho] at h
  | raised y =>
    rw [tryMap_parse_of_raised hp] at h
    exact .inl (congrArg Reply.raised (Reply.raised.inj h))

theorem map_parse_eq_ok {g : α → β} {w : β} (h : (p.map g).parse st = .ok w next) :
    ∃ v, p.parse st = .ok v next ∧ g v = w := by
  obtain ⟨v, hp, hg⟩ := tryMap_parse_eq_ok h
  exact ⟨v, hp, Except.ok.inj hg⟩

theorem map_parse_eq_raised {g : α → β} {x : Fault} (h : (p.map g).parse st = .raised x) :
    p.parse st = .raised x := by
  rcases tryMap_parse_eq_raised h with hp | ⟨v, mid, -, hg⟩
  · exact hp
  · cases hg

theorem error_parse_eq_ok {message : Text} {v : α} (h : (p.error message).parse st = .ok v next) :
    p.parse st = .ok v next := by
  cases hp : p.parse st <;> simp_all [error]

theorem error_parse_eq_raised {message : Text} {x : Fault}
    (h : (p.error message).parse st = .raised x) : p.parse st = .raised x := by
  cases hp : p.parse st <;> simp_all [error]

end Inversion

end Parser

end ParserCombinators
