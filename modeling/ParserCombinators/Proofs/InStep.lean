import ParserCombinators.Proofs.Built
import ParserCombinators.Proofs.Position
/-!
Input and position in step. A state reaches another when the other is what is left after reading
some text from the front of its input, at the position advanced over that text
(`State.Reaches`). Reaching is a preorder, transitive because advancing over two texts in turn is
advancing over the text they make together.

A reply is in step with the state it answers when a success ends at a state the start reaches
and a failure stands at the position of such a state (`Reply.InStep`). Every recogniser replies
in step, every combinator keeps replies in step, and so every built parser does, on every state
and whatever its callbacks do (`Built.inStep`). A state handed back by a `transform` callback is
trusted only for its input, so it is in step too once re-anchored.

Main statement: `Built.parse_in_step`, which also reads the invariant back on a whole run: the
offset of every state and failure is the number of characters read before it.
-/

namespace ParserCombinators

namespace State

/-- `next` is `st` after reading some text from the front of its input. -/
def Reaches (st next : State) : Prop :=
  ∃ read, st.input = read ++ next.input ∧ next.pos = st.pos.advance read

theorem Reaches.refl (st : State) : st.Reaches st :=
  ⟨[], rfl, rfl⟩

theorem Reaches.trans {a b c : State} (hab : a.Reaches b) (hbc : b.Reaches c) : a.Reaches c := by
  obtain ⟨read, hinput, hpos⟩ := hab
  obtain ⟨read', hinput', hpos'⟩ := hbc
  refine ⟨read ++ read', ?_, ?_⟩
  · rw [hinput, hinput', List.append_assoc]
  · rw [hpos', hpos, SourcePos.advance_append]

/-- Reaching, in the words of the states alone: the input left is a suffix, and the position is
the start's advanced over the characters dropped in front of it. -/
theorem reaches_iff {st next : State} :
    st.Reaches next ↔ next.input <:+ st.input ∧
      next.pos = st.pos.advance (st.input.take (st.input.length - next.input.length)) := by
  constructor
  · rintro ⟨read, hinput, hpos⟩
    have htake : st.input.take (st.input.length - next.input.length) = read := by
      simp [hinput]
    exact ⟨⟨read, hinput.symm⟩, htake ▸ hpos⟩
  · rintro ⟨⟨read, hinput⟩, hpos⟩
    have htake : st.input.take (st.input.length - next.input.length) = read := by
      simp [← hinput]
    exact ⟨read, hinput.symm, htake ▸ hpos⟩

theorem exists_reaches_pos_iff {st : State} {pos : SourcePos} :
    (∃ mid, st.Reaches mid ∧ mid.pos = pos) ↔
      ∃ k ≤ st.input.length, pos = st.pos.advance (st.input.take k) := by
  constructor
  · rintro ⟨mid, ⟨read, hinput, hpos⟩, rfl⟩
    refine ⟨read.length, by simp [hinput], ?_⟩
    simp [hpos, hinput]
  · rintro ⟨k, -, rfl⟩
    have hsplit : st.input = st.input.take k ++ st.input.drop k := (List.take_append_drop k _).symm
    exact ⟨⟨st.input.drop k, _⟩, ⟨st.input.take k, hsplit, rfl⟩, rfl⟩

theorem consume_reaches {st next : State} {text : Text} (h : st.consume text = .ok next) :
    st.Reaches next := by
  unfold consume at h
  by_cases he : text = []
  · subst he
    cases h
    exact Reaches.refl st
  · by_cases hp : text <+: st.input
    · simp only [List.isEmpty_iff, he, hp, if_true, if_false, Except.ok.injEq] at h
      subst h
      obtain ⟨rest, hrest⟩ := hp
      exact ⟨text, by simp [← hrest], rfl⟩
    · simp [he, hp] at h

theorem Reaches.length_le {st next : State} (h : st.Reaches next) :
    next.input.length ≤ st.input.length := by
  obtain ⟨read, hinput, -⟩ := h
  rw [hinput, List.length_append]
  exact Nat.le_add_left _ _

/-- A run starts at offset 0, so every state it reaches has read exactly the characters its
offset counts. -/
theorem Reaches.offset_of_initial {s : Text} {next : State} (h : (initial s).Reaches next) :
    next.input.length ≤ s.length ∧ next.pos.offset = s.length - next.input.length := by
  obtain ⟨read, hinput, hpos⟩ := h
  have hlen : s.length = read.length + next.input.length := by
    simp only [initial] at hinput
    rw [hinput, List.length_append]
  have hoffset : next.pos.offset = read.length := by
    rw [hpos, SourcePos.advance_offset]
    simp [initial, SourcePos.start]
  constructor <;> omega

/-- Re-anchoring trusts a state only for its input: what it gives is reached from the anchor. -/
theorem reanchor_reaches {st next anchored : State} (h : st.reanchor next = .ok anchored) :
    st.Reaches anchored := by
  unfold reanchor at h
  split at h
  · exact consume_reaches h
  · cases h

end State

namespace Reply

/-- A reply in step with the state it answers: a success ends at a state the start reaches, a
failure stands where such a state stands, and a fault says nothing of the input. -/
def InStep (st : State) : Reply α → Prop
  | .ok _ next => st.Reaches next
  | .failed e => ∃ mid, st.Reaches mid ∧ mid.pos = e.pos
  | .raised _ => True

@[simp] theorem inStep_ok (st next : State) (v : α) :
    (Reply.ok v next).InStep st ↔ st.Reaches next := Iff.rfl

@[simp] theorem inStep_failed (st : State) (e : ParseError) :
    (Reply.failed e : Reply α).InStep st ↔ ∃ mid, st.Reaches mid ∧ mid.pos = e.pos := Iff.rfl

theorem inStep_failed_here (st : State) (message : Text) (expected : List Text) :
    (Reply.failed ⟨message, expected, st.pos⟩ : Reply α).InStep st :=
  ⟨st, .refl st, rfl⟩

theorem InStep.failed_of_pos {st : State} {e e' : ParseError}
    (h : (Reply.failed e : Reply α).InStep st) (hpos : e'.pos = e.pos) :
    (Reply.failed e' : Reply β).InStep st := by
  obtain ⟨mid, hreach, hmid⟩ := h
  exact ⟨mid, hreach, hmid.trans hpos.symm⟩

theorem InStep.of_reaches {st mid : State} {r : Reply α} (h : st.Reaches mid)
    (hr : r.InStep mid) : r.InStep st := by
  cases r with
  | ok v next => exact h.trans hr
  | failed e =>
    obtain ⟨at', hreach, hpos⟩ := hr
    exact ⟨at', h.trans hreach, hpos⟩
  | raised x => trivial

theorem InStep.bindValue {st : State} {r : Reply α} {f : α → State → Reply β}
    (hr : r.InStep st) (hf : ∀ v next, st.Reaches next → (f v next).InStep next) :
    (r.bindValue f).InStep st := by
  cases r with
  | ok v next => exact InStep.of_reaches hr (hf v next hr)
  | failed e => exact hr
  | raised x => trivial

theorem succeed_inStep (v : α) (st : State) (text : Text) : (succeed v st text).InStep st := by
  cases h : st.consume text with
  | ok next =>
    simp only [succeed, h]
    exact State.consume_reaches h
  | error f =>
    simp only [succeed, h]
    trivial

end Reply

namespace Parser

/-- A parser in step: every reply it gives is in step with the state it ran from. -/
def InStep (p : Parser α) : Prop :=
  ∀ st, (p.parse st).InStep st

theorem adjust_inStep (p : Parser α) (r : Reply α) (st : State) :
    (p.adjust r).InStep st ↔ r.InStep st := by
  cases r with
  | failed e => cases h : p.override <;> simp [adjust, h, Reply.InStep]
  | ok v next => rfl
  | raised x => rfl

theorem InStep.adjust {p : Parser α} (hp : p.InStep) (st : State) :
    (p.adjust (p.parse st)).InStep st :=
  (adjust_inStep p _ st).mpr (hp st)

theorem InStep.reaches_of_parse_eq_ok {p : Parser α} (hp : p.InStep) {st next : State} {v : α}
    (h : p.parse st = .ok v next) : st.Reaches next := by
  have hin := hp st
  rw [h] at hin
  exact hin

/-! ### Recognisers and the parsers that read nothing -/

theorem pure_inStep (v : α) : (pure v).InStep :=
  fun st => State.Reaches.refl st

theorem fail_inStep (message : Text) (expected : List Text) :
    (fail message expected : Parser α).InStep :=
  fun st => Reply.inStep_failed_here st message expected

theorem raise_inStep (fault : Fault) : (raise fault : Parser α).InStep :=
  fun _ => trivial

theorem peek_inStep : peek.InStep :=
  fun st => State.Reaches.refl st

theorem position_inStep : position.InStep :=
  fun st => State.Reaches.refl st

theorem trace_inStep (label : Text) : (trace label).InStep :=
  fun st => State.Reaches.refl st

theorem consume_inStep (text : Text) : (consume text).InStep :=
  fun st => Reply.succeed_inStep text st text

theorem claimText_inStep (text : Text) : (claim (.str text)).InStep := by
  intro st
  cases h : st.claim (.str text) with
  | ok next =>
    simp only [claim, Reply.claimed, h]
    rw [State.claim_str] at h
    exact State.consume_reaches h
  | error f =>
    simp only [claim, Reply.claimed, h]
    trivial

theorem satisfy_inStep (pred : CodePoint → Bool) (desc : Text) : (satisfy pred desc).InStep := by
  intro st
  cases hinput : st.input with
  | nil =>
    simp only [satisfy, hinput]
    exact Reply.inStep_failed_here st _ _
  | cons c rest =>
    by_cases hc : pred c
    · simp only [satisfy, hinput, hc, if_true]
      exact Reply.succeed_inStep c st [c]
    · simp only [satisfy, hinput, hc]
      exact Reply.inStep_failed_here st _ _

theorem string_inStep (s : Text) : (string s).InStep := by
  intro st
  by_cases hs : s <+: st.input
  · simp only [string, hs, if_true]
    exact Reply.succeed_inStep s st s
  · simp only [string, hs, if_false]
    exact Reply.inStep_failed_here st _ _

theorem span_inStep (pred : CodePoint → Bool) (desc : Text) : (span pred desc).InStep :=
  fun st => Reply.succeed_inStep _ st _

/-! ### Combinators -/

theorem InStep.tryMap {p : Parser α} (hp : p.InStep) (f : α → Except Fault β) :
    (p.tryMap f).InStep := by
  intro st
  apply (hp.adjust st).bindValue
  intro v next _
  cases f v with
  | ok w => exact State.Reaches.refl next
  | error x => trivial

theorem InStep.flatMap {p : Parser α} {f : α → Parser β} (hp : p.InStep)
    (hf : ∀ v, (f v).InStep) : (p.flatMap f).InStep := by
  intro st
  apply (hp.adjust st).bindValue
  intro v next _
  exact hf v next

theorem InStep.zip {p : Parser α} {q : Parser β} (hp : p.InStep) (hq : q.InStep) :
    (p.zip q).InStep := by
  intro st
  apply (hp st).bindValue
  intro a rest _
  apply (hq rest).bindValue
  intro b last _
  exact State.Reaches.refl last

theorem InStep.bindField {p : Parser Value} (hp : p.InStep) (key : Text)
    {next : Value → Except Fault (Parser Value)} (hnext : ∀ r q, next r = .ok q → q.InStep) :
    (p.bindField key next).InStep := by
  intro st
  apply (hp.adjust st).bindValue
  intro r rest _
  cases hr : next r with
  | error x => trivial
  | ok q =>
    dsimp only
    apply (hnext r q hr rest).bindValue
    intro v last _
    -- only a record receives the field; any other value faults
    split
    · exact State.Reaches.refl last
    · trivial

/-- `error` and `error2` change only the message of a failure, never where it stands. -/
theorem InStep.error {p : Parser α} (hp : p.InStep) (message : Text) :
    (p.error message).InStep := by
  intro st
  have h := hp st
  cases hr : p.parse st with
  | ok v next =>
    rw [hr] at h
    simpa only [Parser.error, hr] using h
  | failed e =>
    rw [hr] at h
    simp only [Parser.error, hr]
    exact h.failed_of_pos rfl
  | raised x =>
    simp only [Parser.error, hr]
    trivial

theorem InStep.error2 {p : Parser α} (hp : p.InStep) (onError : ParseError → Except Fault Text) :
    (p.error2 onError).InStep := by
  intro st
  have h := hp st
  cases hr : p.parse st with
  | ok v next =>
    rw [hr] at h
    simpa only [Parser.error2, hr] using h
  | failed e =>
    rw [hr] at h
    cases hm : onError e with
    | ok m =>
      simp only [Parser.error2, hr, hm]
      exact h.failed_of_pos rfl
    | error x =>
      simp only [Parser.error2, hr, hm]
      trivial
  | raised x =>
    simp only [Parser.error2, hr]
    trivial

theorem InStep.named {p : Parser α} (hp : p.InStep) (name : Text) : (p.named name).InStep :=
  hp

/-- The state a `transform` callback gives is re-anchored, so whatever it holds, the parser
stays in step. -/
theorem InStep.transform {p : Parser α} (hp : p.InStep)
    (f : α → State → Except Fault (β × State)) : (p.transform f).InStep := by
  intro st
  apply (hp.adjust st).bindValue
  intro v rest _
  cases hf : f v rest with
  | error x => trivial
  | ok result =>
    obtain ⟨w, next⟩ := result
    dsimp only
    cases ha : rest.reanchor next with
    | ok anchored => exact State.reanchor_reaches ha
    | error x => trivial

theorem InStep.lazy {build : Unit → Parser α} (h : (build ()).InStep) : (lazy build).InStep :=
  h

/-! ### Routines -/

theorem gen_value_inStep (v : β) : (gen (σ := σ) (.finish (.value v))).InStep :=
  fun st => State.Reaches.refl st

theorem InStep.gen_parser {p : Parser β} (hp : p.InStep) :
    (gen (σ := σ) (.finish (.parser p))).InStep :=
  hp

theorem InStep.gen_await {p : Parser σ} {next : σ → Routine σ (Ending β)} (hp : p.InStep)
    (hnext : ∀ v, (gen (next v)).InStep) : (gen (.await p next)).InStep := by
  intro st
  apply (hp.adjust st).bindValue
  intro v rest _
  exact hnext v rest

theorem gen_raise_inStep (fault : Fault) : (gen (σ := σ) (β := β) (.raise fault)).InStep :=
  fun _ => trivial

theorem Built.inStep {p : Parser α} (h : p.Built) : p.InStep := by
  induction h with
  | satisfy pred desc => exact satisfy_inStep pred desc
  | string s => exact string_inStep s
  | span pred desc => exact span_inStep pred desc
  | pure v => exact pure_inStep v
  | fail message expected => exact fail_inStep message expected
  | raise fault => exact raise_inStep fault
  | peek => exact peek_inStep
  | position => exact position_inStep
  | consume text => exact consume_inStep text
  | claimText text => exact claimText_inStep text
  | trace label => exact trace_inStep label
  | tryMap f _ ih => exact ih.tryMap f
  | flatMap _ _ ih ihf => exact ih.flatMap ihf
  | zip _ _ ihp ihq => exact ihp.zip ihq
  | bindField key _ _ ih ihq => exact ih.bindField key ihq
  | error message _ ih => exact ih.error message
  | error2 onError _ ih => exact ih.error2 onError
  | named name _ ih => exact ih.named name
  | transform f _ ih => exact ih.transform f
  | lazy _ ih => exact ih.lazy
  | genValue v => exact gen_value_inStep v
  | genParser _ ih => exact ih.gen_parser
  | genAwait _ _ ih ihnext => exact ih.gen_await ihnext
  | genRaise fault => exact gen_raise_inStep fault

/-- Every built parser keeps input and position in step on every state, whatever its line,
column and offset: a success leaves a suffix of the input, at the start's position advanced over
what was dropped, and a failure stands where the start's position advanced over a prefix of the
input stands. On a run of a text, the offset of the state after a success and of a failure is the
number of characters read before it. -/
theorem Built.parse_in_step {p : Parser α} (hp : p.Built) :
    (∀ st v next, p.parse st = .ok v next →
      next.input <:+ st.input ∧
        next.pos = st.pos.advance (st.input.take (st.input.length - next.input.length))) ∧
    (∀ st e, p.parse st = .failed e →
      ∃ k ≤ st.input.length, e.pos = st.pos.advance (st.input.take k)) ∧
    (∀ s v next, p.run s = .ok v next →
      next.input.length ≤ s.length ∧ next.pos.offset = s.length - next.input.length) ∧
    (∀ s e, p.run s = .failed e → ∃ k ≤ s.length, e.pos.offset = k) := by
  have hstep : p.InStep := hp.inStep
  have hrun : ∀ s, (p.run s).InStep (State.initial s) := fun s => hstep.adjust _
  refine ⟨?_, ?_, ?_, ?_⟩
  · intro st v next h
    have hreach := hstep st
    rw [h, Reply.inStep_ok] at hreach
    exact State.reaches_iff.mp hreach
  · intro st e h
    have hfail := hstep st
    rw [h, Reply.inStep_failed] at hfail
    exact State.exists_reaches_pos_iff.mp hfail
  · intro s v next h
    have hreach := hrun s
    rw [h, Reply.inStep_ok] at hreach
    exact hreach.offset_of_initial
  · intro s e h
    have hfail := hrun s
    rw [h, Reply.inStep_failed] at hfail
    obtain ⟨mid, hreach, hpos⟩ := hfail
    obtain ⟨hle, hoffset⟩ := hreach.offset_of_initial
    refine ⟨s.length - mid.input.length, by omega, ?_⟩
    rw [← hpos, hoffset]
    omega

/-- A literal followed by any character is built, so it keeps input and position in step. -/
theorem string_zip_anyChar_in_step :
    ((string "a").zip anyChar).Built ∧
    (∀ st v next, ((string "a").zip anyChar).parse st = .ok v next →
      next.input <:+ st.input ∧
        next.pos = st.pos.advance (st.input.take (st.input.length - next.input.length))) ∧
    (∀ st e, ((string "a").zip anyChar).parse st = .failed e →
      ∃ k ≤ st.input.length, e.pos = st.pos.advance (st.input.take k)) ∧
    (∀ s v next, ((string "a").zip anyChar).run s = .ok v next →
      next.input.length ≤ s.length ∧ next.pos.offset = s.length - next.input.length) ∧
    (∀ s e, ((string "a").zip anyChar).run s = .failed e →
      ∃ k ≤ s.length, e.pos.offset = k) :=
  have hbuilt : ((string "a").zip anyChar).Built := .zip (.string _) (.satisfy _ _)
  ⟨hbuilt, Built.parse_in_step hbuilt⟩

end Parser

end ParserCombinators
