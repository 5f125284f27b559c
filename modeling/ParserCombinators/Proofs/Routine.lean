import ParserCombinators.Parser.Routine
/-!
Routines run step by step. Running a routine goes through the parsers it awaits in turn:
`Routine.RunsTo body st r st'` says that running `body` from `st` comes to the routine `r` at the
state `st'`, every parser awaited on the way succeeding once its override is put on its reply.
A run ends at the first routine that stops it (`Routine.Stops`): a routine that finishes, a
parser awaited that fails or faults, or a fault of the routine itself, such as a value it offers
where a parser should be awaited.

Main statement: `gen_eq_flatMap_chain`. The parser of a routine, under any name, is the chain of
`flatMap`s the routine spells out, and it gives exactly what the first stopping point of its run
gives. So the first parser that fails ends the run with its failure and the rest of the routine
is never run, and a fault of the routine is raised exactly when every parser awaited before it
succeeded.
-/

namespace ParserCombinators

namespace Routine

/-- Running `body` from `st` comes to the routine `r` at the state `st'`, every parser awaited on
the way succeeding. -/
inductive RunsTo : Routine σ (Ending β) → State → Routine σ (Ending β) → State → Prop
  | refl (r : Routine σ (Ending β)) (st : State) : RunsTo r st r st
  | await {p : Parser σ} {next : σ → Routine σ (Ending β)} {st rest st' : State} {v : σ}
      {r : Routine σ (Ending β)} :
      p.adjust (p.parse st) = .ok v rest → RunsTo (next v) rest r st' →
        RunsTo (await p next) st r st'

/-- How a routine ends a run at a state, and with what reply. -/
inductive Stops : Routine σ (Ending β) → State → Reply β → Prop
  | value (v : β) (st : State) : Stops (finish (.value v)) st (.ok v st)
  | parser (p : Parser β) (st : State) : Stops (finish (.parser p)) st (p.parse st)
  | failed {p : Parser σ} {next : σ → Routine σ (Ending β)} {st : State} {e : ParseError} :
      p.adjust (p.parse st) = .failed e → Stops (await p next) st (.failed e)
  | raised {p : Parser σ} {next : σ → Routine σ (Ending β)} {st : State} {x : Fault} :
      p.adjust (p.parse st) = .raised x → Stops (await p next) st (.raised x)
  | raise (x : Fault) (st : State) : Stops (raise x) st (.raised x)

variable {body r : Routine σ (Ending β)} {st st' : State} {out : Reply β}

theorem RunsTo.drive_eq (h : body.RunsTo st r st') : body.drive st = r.drive st' := by
  induction h with
  | refl => rfl
  | await hp _ ih =>
    rw [← ih]
    simp only [drive, hp, Reply.bindValue_ok]

theorem Stops.drive_eq (h : r.Stops st out) : r.drive st = out := by
  cases h with
  | value v => rfl
  | parser p => rfl
  | failed hp => simp only [drive, hp, Reply.bindValue_failed]
  | raised hp => simp only [drive, hp, Reply.bindValue_raised]
  | raise x => rfl

/-- What driving a routine gives is what the first routine its run stops at gives. The induction
is on the routine: an awaited parser either succeeds, and the run goes on into the routine for
its value, or it stops the run where it stands. -/
theorem drive_eq_iff :
    body.drive st = out ↔ ∃ r st', body.RunsTo st r st' ∧ r.Stops st' out := by
  constructor
  · intro h
    induction body generalizing st with
    | finish e =>
      cases e with
      | value v =>
        subst h
        exact ⟨_, _, .refl _ _, .value v st⟩
      | parser p =>
        subst h
        exact ⟨_, _, .refl _ _, .parser p st⟩
    | await p next ih =>
      cases hp : p.adjust (p.parse st) with
      | ok v rest =>
        have hnext : (next v).drive rest = out := by
          simpa only [drive, hp, Reply.bindValue_ok] using h
        obtain ⟨r, st', hrun, hstop⟩ := ih v hnext
        exact ⟨r, st', .await hp hrun, hstop⟩
      | failed e =>
        have hout : out = .failed e := by
          simpa only [drive, hp, Reply.bindValue_failed, eq_comm] using h
        subst hout
        exact ⟨_, _, .refl _ _, .failed hp⟩
      | raised x =>
        have hout : out = .raised x := by
          simpa only [drive, hp, Reply.bindValue_raised, eq_comm] using h
        subst hout
        exact ⟨_, _, .refl _ _, .raised hp⟩
    | raise x =>
      subst h
      exact ⟨_, _, .refl _ _, .raise x st⟩
  · rintro ⟨r, st', hrun, hstop⟩
    rw [hrun.drive_eq, hstop.drive_eq]

end Routine

namespace Parser

/-- The parser of a routine, under any name it is given, runs the chain of `flatMap`s the routine
spells out, and gives what the first stopping point of its run gives: the first awaited parser
that fails ends it with its failure, and a fault of the routine is raised exactly when every
parser awaited before it succeeded. -/
theorem gen_eq_flatMap_chain (body : Routine σ (Ending β)) (st : State) :
    (gen body).parse st = body.chain.parse st ∧
    (∀ name, ((gen body).named name).parse st = body.chain.parse st) ∧
    (∀ out, (gen body).parse st = out ↔
      ∃ r st', body.RunsTo st r st' ∧ r.Stops st' out) :=
  ⟨gen_parse_eq_chain body st, fun _ => gen_parse_eq_chain body st,
    fun _ => Routine.drive_eq_iff⟩

end Parser

end ParserCombinators
