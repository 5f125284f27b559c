import ParserCombinators.Proofs.Sequencing
/-!
Error annotations change only messages. Two replies agree besides the message
(`Reply.SameUpToMessage`) when they are successes with the same value and state, failures with
the same alternatives at the same position, or the same fault. `Parser.Reannotated p p'` says
that `p'` is `p` with `error` and `error2` annotations added, removed or changed on any of its
parts, the parsers its callbacks give and its routines await included; an annotation that is
added or removed computes its message without faulting. It is the least relation that relates
each parser to itself, lets such an annotation stand on either side, and is closed under every
combinator. A message is read by `error2` alone, so an `error2` kept on both sides must fault
alike on failures that agree besides the message.

The override that `map`, `flatMap`, `bindField`, `transform` and routines put on a reply is a
message too, so reannotated parsers agree besides the message on every state, however their
overrides differ, and an annotation on a parser that succeeds changes nothing after it.

Main statement: `reannotated_same_up_to_message`.
-/

namespace ParserCombinators

namespace Reply

/-- Two replies that agree besides the message of a failure. -/
def SameUpToMessage : Reply α → Reply α → Prop
  | .ok v rest, .ok v' rest' => v = v' ∧ rest = rest'
  | .failed e, .failed e' => e.expected = e'.expected ∧ e.pos = e'.pos
  | .raised x, .raised x' => x = x'
  | _, _ => False

namespace SameUpToMessage

variable {r r' r'' : Reply α}

theorem refl (r : Reply α) : r.SameUpToMessage r := by
  cases r <;> simp [SameUpToMessage]

theorem symm (h : r.SameUpToMessage r') : r'.SameUpToMessage r := by
  cases r <;> cases r' <;> simp_all [SameUpToMessage]

theorem trans (h : r.SameUpToMessage r') (h' : r'.SameUpToMessage r'') :
    r.SameUpToMessage r'' := by
  cases r <;> cases r' <;> cases r'' <;> simp_all [SameUpToMessage]

theorem eq_of_ok {v : α} {rest : State} (h : (Reply.ok v rest).SameUpToMessage r) :
    r = .ok v rest := by
  cases r with
  | ok v' rest' =>
    obtain ⟨rfl, rfl⟩ := h
    rfl
  | failed e => exact h.elim
  | raised x => exact h.elim

theorem bindValue (h : r.SameUpToMessage r') {f g : α → State → Reply β}
    (hfg : ∀ v rest, (f v rest).SameUpToMessage (g v rest)) :
    (r.bindValue f).SameUpToMessage (r'.bindValue g) := by
  cases r <;> cases r'
  case ok.ok v rest v' rest' =>
    obtain ⟨rfl, rfl⟩ := h
    exact hfg v rest
  all_goals simp_all [SameUpToMessage]

end SameUpToMessage

@[simp] theorem sameUpToMessage_failed_with (e : ParseError) (m : Text) :
    (Reply.failed { e with message := m } : Reply α).SameUpToMessage (.failed e) :=
  ⟨rfl, rfl⟩

end Reply

namespace Parser

open Reply (SameUpToMessage)

/-! ### Annotations rewrite only messages -/

theorem adjust_sameUpToMessage (p : Parser α) (r : Reply α) : (p.adjust r).SameUpToMessage r := by
  cases r with
  | failed e => cases h : p.override <;> simp [adjust, h, SameUpToMessage]
  | ok v rest => exact .refl _
  | raised x => exact .refl _

theorem error_parse_sameUpToMessage (p : Parser α) (message : Text) (st : State) :
    ((p.error message).parse st).SameUpToMessage (p.parse st) := by
  simp only [error]
  cases p.parse st with
  | failed e => exact Reply.sameUpToMessage_failed_with e message
  | ok v rest => exact .refl _
  | raised x => exact .refl _

theorem error2_parse_sameUpToMessage (p : Parser α) (onError : ParseError → Text) (st : State) :
    ((p.error2 fun e => .ok (onError e)).parse st).SameUpToMessage (p.parse st) := by
  simp only [error2]
  cases p.parse st with
  | failed e => exact Reply.sameUpToMessage_failed_with e (onError e)
  | ok v rest => exact .refl _
  | raised x => exact .refl _

end Parser

namespace Reply.SameUpToMessage

theorem adjust {r r' : Reply α} (h : r.SameUpToMessage r') (p p' : Parser α) :
    (p.adjust r).SameUpToMessage (p'.adjust r') :=
  (Parser.adjust_sameUpToMessage p r).trans (h.trans (Parser.adjust_sameUpToMessage p' r').symm)

theorem error2 {p p' : Parser α} {st : State}
    (h : (p.parse st).SameUpToMessage (p'.parse st)) {onError onError' : ParseError → Except Fault Text}
    (halike : ∀ e e', e.expected = e'.expected → e.pos = e'.pos →
      ∀ x, onError e = .error x ↔ onError' e' = .error x) :
    ((p.error2 onError).parse st).SameUpToMessage ((p'.error2 onError').parse st) := by
  cases hr : p.parse st <;> cases hr' : p'.parse st <;> rw [hr, hr'] at h
  case failed.failed e e' =>
    obtain ⟨hex, hpos⟩ := h
    have hfault := halike e e' hex hpos
    simp only [Parser.error2, hr, hr']
    -- the two functions either both give a message, or both fault with the same fault
    cases hm : onError e <;> cases hm' : onError' e'
    case ok.ok m m' => exact ⟨hex, hpos⟩
    case error.error x x' =>
      have hx : onError' e' = .error x := (hfault x).mp hm
      rw [hm'] at hx
      exact (Except.error.inj hx).symm
    case ok.error m x' =>
      have hx : onError e = .error x' := (hfault x').mpr hm'
      rw [hm] at hx
      cases hx
    case error.ok x m' =>
      have hx : onError' e' = .error x := (hfault x).mp hm
      rw [hm'] at hx
      cases hx
  all_goals simp_all [SameUpToMessage, Parser.error2]

end Reply.SameUpToMessage

namespace Parser

/-! ### Reannotated parsers -/

/-- `p'` is `p` with error annotations added, removed or changed on any of its parts. -/
inductive Reannotated : {α : Type} → Parser α → Parser α → Prop
  | refl (p : Parser α) : Reannotated p p
  | errorRight {p p' : Parser α} (message : Text) : Reannotated p p' →
      Reannotated p (p'.error message)
  | errorLeft {p p' : Parser α} (message : Text) : Reannotated p p' →
      Reannotated (p.error message) p'
  | error2Right {p p' : Parser α} (onError : ParseError → Text) : Reannotated p p' →
      Reannotated p (p'.error2 fun e => .ok (onError e))
  | error2Left {p p' : Parser α} (onError : ParseError → Text) : Reannotated p p' →
      Reannotated (p.error2 fun e => .ok (onError e)) p'
  | error2 {p p' : Parser α} {onError onError' : ParseError → Except Fault Text} :
      Reannotated p p' →
      (∀ e e', e.expected = e'.expected → e.pos = e'.pos →
        ∀ x, onError e = .error x ↔ onError' e' = .error x) →
      Reannotated (p.error2 onError) (p'.error2 onError')
  | tryMap {p p' : Parser α} (f : α → Except Fault β) : Reannotated p p' →
      Reannotated (p.tryMap f) (p'.tryMap f)
  | flatMap {p p' : Parser α} {f f' : α → Parser β} : Reannotated p p' →
      (∀ v, Reannotated (f v) (f' v)) → Reannotated (p.flatMap f) (p'.flatMap f')
  | zip {p p' : Parser α} {q q' : Parser β} : Reannotated p p' → Reannotated q q' →
      Reannotated (p.zip q) (p'.zip q')
  | bindField {p p' : Parser Value} (key : Text)
      {next next' : Value → Except Fault (Parser Value)} : Reannotated p p' →
      (∀ r x, next r = .error x ↔ next' r = .error x) →
      (∀ r q q', next r = .ok q → next' r = .ok q' → Reannotated q q') →
      Reannotated (p.bindField key next) (p'.bindField key next')
  | named {p p' : Parser α} (name : Text) : Reannotated p p' →
      Reannotated (p.named name) (p'.named name)
  | transform {p p' : Parser α} (f : α → State → Except Fault (β × State)) : Reannotated p p' →
      Reannotated (p.transform f) (p'.transform f)
  | lazy {build build' : Unit → Parser α} : Reannotated (build ()) (build' ()) →
      Reannotated (lazy build) (lazy build')
  | genParser {p p' : Parser β} : Reannotated p p' →
      Reannotated (gen (σ := σ) (.finish (.parser p))) (gen (.finish (.parser p')))
  | genAwait {p p' : Parser σ} {next next' : σ → Routine σ (Ending β)} : Reannotated p p' →
      (∀ v, Reannotated (gen (next v)) (gen (next' v))) →
      Reannotated (gen (.await p next)) (gen (.await p' next'))

/-- Reannotated parsers agree besides the message on every state. The induction is on how the
annotations were changed; every combinator runs the same continuation on the same value and
state, so agreement passes from the parts to the whole. -/
theorem Reannotated.parse_sameUpToMessage {p p' : Parser α} (h : p.Reannotated p') (st : State) :
    (p.parse st).SameUpToMessage (p'.parse st) := by
  induction h generalizing st with
  | refl p => exact .refl _
  | errorRight message _ ih => exact (ih st).trans (error_parse_sameUpToMessage _ message st).symm
  | errorLeft message _ ih => exact (error_parse_sameUpToMessage _ message st).trans (ih st)
  | error2Right onError _ ih =>
    exact (ih st).trans (error2_parse_sameUpToMessage _ onError st).symm
  | error2Left onError _ ih => exact (error2_parse_sameUpToMessage _ onError st).trans (ih st)
  | error2 _ halike ih => exact (ih st).error2 halike
  | tryMap f _ ih =>
    exact ((ih st).adjust _ _).bindValue fun v rest => .refl _
  | flatMap _ _ ih ihf =>
    exact ((ih st).adjust _ _).bindValue fun v rest => ihf v rest
  | zip _ _ ihp ihq =>
    exact (ihp st).bindValue fun a rest => (ihq rest).bindValue fun b last => .refl _
  | @bindField _ _ key next next' _ hfault _ ih ihq =>
    refine ((ih st).adjust _ _).bindValue fun r rest => ?_
    -- the two field functions give parsers alike, or fault alike
    cases hq : next r <;> cases hq' : next' r
    case ok.ok q q' =>
      exact (ihq r q q' hq hq' rest).bindValue fun v last => .refl _
    case error.error x x' =>
      have hx : next' r = .error x := (hfault r x).mp hq
      rw [hq'] at hx
      exact (Except.error.inj hx).symm
    case ok.error q x' =>
      have hx : next r = .error x' := (hfault r x').mpr hq'
      rw [hq] at hx
      cases hx
    case error.ok x q' =>
      have hx : next' r = .error x := (hfault r x).mp hq
      rw [hq'] at hx
      cases hx
  | named name _ ih => exact ih st
  | transform f _ ih =>
    exact ((ih st).adjust _ _).bindValue fun v rest => .refl _
  | lazy _ ih => exact ih st
  | genParser _ ih => exact ih st
  | genAwait _ _ ih ihnext =>
    exact ((ih st).adjust _ _).bindValue fun v rest => ihnext v rest

theorem Reannotated.parse_eq_of_ok {A W : Parser α} (h : A.Reannotated W) {st rest : State}
    {v : α} (hA : A.parse st = .ok v rest) : W.parse st = .ok v rest := by
  have hsame := h.parse_sameUpToMessage st
  rw [hA] at hsame
  exact hsame.eq_of_ok

/-- Error annotations change only messages. A parser with `error` and `error2` annotations
added, removed or changed on any of its parts gives, on every state, a reply that agrees with the
original's besides the message: the same value and state, the same alternatives at the same
position, or the same fault. An annotated parser that succeeds gives the original's success, so
each step after it, through `flatMap`, `map`, `zip`, `transform`, a routine or `bindField`, runs
from the same state on the same value as after the original, message included. -/
theorem reannotated_same_up_to_message :
    (∀ {α : Type} (P P' : Parser α), P.Reannotated P' → ∀ st,
      (P.parse st).SameUpToMessage (P'.parse st)) ∧
    (∀ {α β : Type} (A W : Parser α), A.Reannotated W → ∀ st v rest, A.parse st = .ok v rest →
      W.parse st = .ok v rest ∧
      (∀ f : α → Parser β, (W.flatMap f).parse st = (f v).parse rest) ∧
      (∀ g : α → β, (W.map g).parse st = .ok (g v) rest) ∧
      (∀ q : Parser β, (W.zip q).parse st = ((pure v).zip q).parse rest) ∧
      (∀ f : α → State → Except Fault (β × State),
        (W.transform f).parse st = ((pure v).transform f).parse rest) ∧
      ∀ next : α → Routine α (Ending β),
        (gen (.await W next)).parse st = (gen (next v)).parse rest) ∧
    (∀ A W : Parser Value, A.Reannotated W → ∀ st v rest, A.parse st = .ok v rest →
      ∀ key next, (W.bindField key next).parse st = ((pure v).bindField key next).parse rest) := by
  refine ⟨fun P P' h st => h.parse_sameUpToMessage st, ?_, ?_⟩
  · intro α β A W h st v rest hA
    have hW : W.parse st = .ok v rest := h.parse_eq_of_ok hA
    exact ⟨hW, flatMap_parse_of_ok hW, map_parse_of_ok hW, zip_parse_of_ok hW,
      transform_parse_of_ok hW, gen_await_parse_of_ok hW⟩
  · intro A W h st v rest hA key next
    exact bindField_parse_of_ok (h.parse_eq_of_ok hA) key next

/-- Any character, and the same under a message of its own: at the end of the input they fail
alike besides the message, and on a character the annotated one hands that character to the
parser after it; an empty record under a message of its own hands the record to a field step. -/
theorem anyChar_error_same_up_to_message :
    anyChar.Reannotated (anyChar.error "a character") ∧
    (anyChar.parse ⟨[], .start⟩).SameUpToMessage
      ((anyChar.error "a character").parse ⟨[], .start⟩) ∧
    anyChar.parse ⟨"a", .start⟩ = .ok 'a' ⟨[], SourcePos.start.advance "a"⟩ ∧
    ((anyChar.error "a character").flatMap char).parse ⟨"a", .start⟩ =
      (char 'a').parse ⟨[], SourcePos.start.advance "a"⟩ ∧
    record.Reannotated (record.error "a record") ∧
    ((record.error "a record").bindField "k" fun _ => .ok (peek.map Value.str)).parse ⟨[], .start⟩ =
      ((pure (.record [])).bindField "k" fun _ => .ok (peek.map Value.str)).parse ⟨[], .start⟩ := by
  have h : anyChar.Reannotated (anyChar.error "a character") := .errorRight _ (.refl _)
  have hr : record.Reannotated (record.error "a record") := .errorRight _ (.refl _)
  have hok : anyChar.parse ⟨"a", .start⟩ = .ok 'a' ⟨[], SourcePos.start.advance "a"⟩ := rfl
  exact ⟨h, reannotated_same_up_to_message.1 _ _ h _, hok,
    (reannotated_same_up_to_message.2.1 _ _ h _ _ _ hok).2.1 char, hr,
    reannotated_same_up_to_message.2.2 _ _ hr _ _ _ rfl _ _⟩

end Parser

end ParserCombinators
