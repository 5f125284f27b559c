import ParserCombinators.Proofs.Built
/-!
The monad and functor laws of parsers, as equalities of the replies on every state. `flatMap` and
`map` put the override of the parser they run first on its reply, while the parser a
continuation gives runs without it. So left identity and the laws that compose two `map`s hold of
every parser, and right identity, the identity law of `map` and associativity hold of the parsers
whose override holds of their failures (`Parser.OverrideHolds`), every built parser among them.

Main statement: `flatMap_map_laws`.
-/

namespace ParserCombinators

namespace Reply

theorem bindValue_bindValue (r : Reply α) (f : α → State → Reply β)
    (g : β → State → Reply γ) :
    (r.bindValue f).bindValue g = r.bindValue fun v rest => (f v rest).bindValue g := by
  cases r <;> rfl

@[simp] theorem bindValue_ok_right (r : Reply α) : r.bindValue Reply.ok = r := by
  cases r <;> rfl

end Reply

namespace Parser

theorem adjust_parse_of_none {p : Parser α} (h : p.override = none) (st : State) :
    p.adjust (p.parse st) = p.parse st :=
  (OverrideHolds.of_none h).adjust_parse st

theorem map_override (p : Parser α) (f : α → β) : (p.map f).override = none := rfl

theorem map_parse (p : Parser α) (f : α → β) (st : State) :
    (p.map f).parse st = (p.adjust (p.parse st)).bindValue fun v rest => .ok (f v) rest :=
  rfl

theorem pure_flatMap_parse (v : α) (f : α → Parser β) (st : State) :
    ((pure v).flatMap f).parse st = (f v).parse st :=
  rfl

/-- Right identity: only the override of `m` stands between `m.flatMap pure` and `m`. -/
theorem OverrideHolds.flatMap_pure_parse {m : Parser α} (hm : m.OverrideHolds) (st : State) :
    (m.flatMap pure).parse st = m.parse st := by
  rw [flatMap_parse, hm.adjust_parse]
  exact Reply.bindValue_ok_right _

/-- Associativity: on the left `f x` runs as a continuation, on the right as the receiver of the
inner `flatMap`, whose override is put on its failures; the two agree when that override holds. -/
theorem flatMap_flatMap_parse (m : Parser α) {f : α → Parser β}
    (hf : ∀ x, (f x).OverrideHolds) (g : β → Parser γ) (st : State) :
    ((m.flatMap f).flatMap g).parse st = (m.flatMap fun x => (f x).flatMap g).parse st := by
  rw [flatMap_parse, adjust_parse_of_none (flatMap_override m f), flatMap_parse, flatMap_parse,
    Reply.bindValue_bindValue]
  congr 1
  funext v rest
  rw [flatMap_parse, (hf v).adjust_parse]

theorem OverrideHolds.map_id_parse {m : Parser α} (hm : m.OverrideHolds) (st : State) :
    (m.map fun x => x).parse st = m.parse st := by
  rw [map_parse, hm.adjust_parse]
  exact Reply.bindValue_ok_right _

theorem map_map_parse (m : Parser α) (f : α → β) (g : β → γ) (st : State) :
    ((m.map f).map g).parse st = (m.map fun x => g (f x)).parse st := by
  rw [map_parse, adjust_parse_of_none (map_override m f), map_parse, map_parse,
    Reply.bindValue_bindValue]
  rfl

theorem map_parse_eq_flatMap_pure (m : Parser α) (f : α → β) (st : State) :
    (m.map f).parse st = (m.flatMap fun x => pure (f x)).parse st :=
  rfl

/-- The monad and functor laws, for a built parser `m` and a continuation `f` that gives built
parsers, on every state: left and right identity and associativity of `flatMap`, identity and
composition of `map`, and `map` as `flatMap` into `pure`. The replies are equal, so both sides
succeed alike, fail with the same message, alternatives and position, or raise the same fault. -/
theorem flatMap_map_laws {m : Parser α} (hm : m.Built) {f : α → Parser β}
    (hf : ∀ x, (f x).Built) :
    (∀ (v : α) st, ((pure v).flatMap f).parse st = (f v).parse st) ∧
    (∀ st, (m.flatMap pure).parse st = m.parse st) ∧
    (∀ (g : β → Parser γ) st,
      ((m.flatMap f).flatMap g).parse st = (m.flatMap fun x => (f x).flatMap g).parse st) ∧
    (∀ st, (m.map fun x => x).parse st = m.parse st) ∧
    (∀ (φ : α → β) (ψ : β → γ) st,
      ((m.map φ).map ψ).parse st = (m.map fun x => ψ (φ x)).parse st) ∧
    (∀ (φ : α → β) st, (m.map φ).parse st = (m.flatMap fun x => pure (φ x)).parse st) := by
  have hmo : m.OverrideHolds := hm.overrideHolds
  have hfo : ∀ x, (f x).OverrideHolds := fun x => (hf x).overrideHolds
  refine ⟨?_, ?_, ?_, ?_, ?_, ?_⟩
  · intro v st
    exact pure_flatMap_parse v f st
  · intro st
    exact hmo.flatMap_pure_parse st
  · intro g st
    exact flatMap_flatMap_parse m hfo g st
  · intro st
    exact hmo.map_id_parse st
  · intro φ ψ st
    exact map_map_parse m φ ψ st
  · intro φ st
    exact map_parse_eq_flatMap_pure m φ st

/-- Parsers whose failures carry an override obey the laws: here any character under one message,
then the same character under another. -/
theorem anyChar_error_flatMap_laws :
    (anyChar.error "a character").Built ∧ (∀ c, ((char c).error "the same character").Built) ∧
    (∀ (v : CodePoint) st,
      ((pure v).flatMap fun c => (char c).error "the same character").parse st =
        ((char v).error "the same character").parse st) ∧
    (∀ st, ((anyChar.error "a character").flatMap pure).parse st =
      (anyChar.error "a character").parse st) ∧
    (∀ (g : CodePoint → Parser CodePoint) st,
      (((anyChar.error "a character").flatMap fun c => (char c).error "the same character").flatMap
          g).parse st =
        ((anyChar.error "a character").flatMap fun x =>
          ((char x).error "the same character").flatMap g).parse st) ∧
    (∀ st, ((anyChar.error "a character").map fun x => x).parse st =
      (anyChar.error "a character").parse st) ∧
    (∀ (φ ψ : CodePoint → CodePoint) st,
      (((anyChar.error "a character").map φ).map ψ).parse st =
        ((anyChar.error "a character").map fun x => ψ (φ x)).parse st) ∧
    (∀ (φ : CodePoint → CodePoint) st, ((anyChar.error "a character").map φ).parse st =
      ((anyChar.error "a character").flatMap fun x => pure (φ x)).parse st) :=
  have hm : (anyChar.error "a character").Built := .error _ (.satisfy _ _)
  have hf : ∀ c, ((char c).error "the same character").Built := fun _ => .error _ (.satisfy _ _)
  ⟨hm, hf, flatMap_map_laws hm hf⟩

end Parser

end ParserCombinators
