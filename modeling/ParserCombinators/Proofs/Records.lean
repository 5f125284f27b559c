import Mathlib.Data.List.Induction
import ParserCombinators.Proofs.Sequencing
/-!
Pairs and records as `flatMap` chains. `zip` runs its two parsers as they are, and its `flatMap`
form puts the override of each on its reply; when the overrides hold, as they do on every built
parser, the two agree on every state. A record step runs the record parser with its override, asks
the field function for a parser given exactly the record built so far, runs that parser as it is
and stores its value under the key in a new record; its `flatMap` form through `tryMap` does the
same with the field parser's override, so they agree when the field parsers' overrides hold. A
field function that refuses to give a parser stops the run only once the record parser has
succeeded, and a record parser's value that is not a record stops it only once the field parser
has succeeded.

A chain of record steps from the empty record nests the last step outermost. Running it is the
loop that runs the fields from the first (`runFields`), each field function given the record of
the bindings made so far, and a key of the record built holds the value of the last field bound
under it.

Main statement: `zip_bind_eq_flatMap_forms`.
-/

namespace ParserCombinators

namespace Value

/-- A record with one field set, as the record display `{**r, key: v}` builds it: a value that
is not a record cannot be spread into one. -/
def withField (r : Value) (key : Text) (v : Value) : Except Fault Value :=
  match r with
  | .record fields => .ok (.record (put fields key v))
  | other => .error (.notARecord other.kind)

def recordOf (bindings : List (Text × Value)) : List (Text × Value) :=
  bindings.foldl (fun r b => put r b.1 b.2) []

theorem recordOf_append_singleton (bindings : List (Text × Value)) (key : Text) (v : Value) :
    recordOf (bindings ++ [(key, v)]) = put (recordOf bindings) key v := by
  simp [recordOf]

theorem lookup_cons (f : Text × Value) (fields : List (Text × Value)) (key : Text) :
    lookup (f :: fields) key = if f.1 = key then some f.2 else lookup fields key := by
  by_cases h : f.1 = key <;> simp [lookup, h]

theorem lookup_map_set_of_ne (fields : List (Text × Value)) {key other : Text}
    (hne : other ≠ key) (v : Value) :
    lookup (fields.map fun f => if f.1 == key then (key, v) else f) other =
      lookup fields other := by
  induction fields with
  | nil => rfl
  | cons f fields ih =>
    rw [List.map_cons, lookup_cons, lookup_cons, ih]
    by_cases hf : f.1 = key
    · simp [hf, Ne.symm hne]
    · simp [hf]

theorem put_cons (f : Text × Value) (fields : List (Text × Value)) (key : Text) (v : Value) :
    put (f :: fields) key v =
      if f.1 = key then (key, v) :: fields.map (fun g => if g.1 == key then (key, v) else g)
      else f :: put fields key v := by
  by_cases hf : f.1 = key
  · simp [put, hf]
  · by_cases hany : fields.any (·.1 == key) <;> simp [put, hf, hany]

theorem lookup_put (fields : List (Text × Value)) (key other : Text) (v : Value) :
    lookup (put fields key v) other = if other = key then some v else lookup fields other := by
  induction fields with
  | nil =>
    rw [show put [] key v = [(key, v)] from rfl, lookup_cons]
    by_cases ho : other = key
    · simp [ho]
    · simp [ho, Ne.symm ho, lookup]
  | cons f fields ih =>
    rw [put_cons, lookup_cons f]
    by_cases hf : f.1 = key
    · rw [if_pos hf, lookup_cons]
      by_cases ho : other = key
      · simp [ho]
      · rw [if_neg (Ne.symm ho), if_neg ho, lookup_map_set_of_ne _ ho, if_neg (hf ▸ Ne.symm ho)]
    · rw [if_neg hf, lookup_cons, ih]
      by_cases ho : other = key
      · subst ho
        simp [hf]
      · simp [ho]

/-- Every field of the record a list of bindings builds holds the value of the last binding
under its key. -/
theorem lookup_recordOf (bindings : List (Text × Value)) (key : Text) :
    lookup (recordOf bindings) key = lookup bindings.reverse key := by
  induction bindings using List.reverseRecOn with
  | nil => rfl
  | append_singleton bindings b ih =>
    rw [recordOf_append_singleton, List.reverse_append, List.reverse_singleton,
      List.singleton_append]
    rw [lookup_put, ih, lookup_cons]
    by_cases hb : b.1 = key
    · simp [hb]
    · simp [hb, Ne.symm hb]

end Value

namespace Parser

/-! ### Pairs -/

theorem OverrideHolds.zip_parse_eq_flatMap {a : Parser α} {b : Parser β} (ha : a.OverrideHolds)
    (hb : b.OverrideHolds) (st : State) :
    (a.zip b).parse st = (a.flatMap fun x => b.map fun y => (x, y)).parse st := by
  rw [zip_parse, flatMap_parse, ha.adjust_parse]
  congr 1
  funext x rest
  rw [map_parse, hb.adjust_parse]

/-! ### Record steps -/

theorem bindField_parse (p : Parser Value) (key : Text) (next : Value → Except Fault (Parser Value))
    (st : State) :
    (p.bindField key next).parse st =
      (p.adjust (p.parse st)).bindValue fun r rest =>
        match next r with
        | .error x => .raised x
        | .ok q =>
          (q.parse rest).bindValue fun v last =>
            match r with
            | .record fields => .ok (.record (Value.put fields key v)) last
            | other => .raised (.notARecord other.kind) :=
  rfl

/-- A record step is the `flatMap` of the record parser into the field parser the field function
gives, its value spread into the record, when the overrides of the field parsers hold. A field
function that gives no parser stops the run with its fault. -/
theorem bindField_parse_eq_flatMap (p : Parser Value) (key : Text)
    {next : Value → Except Fault (Parser Value)} (hnext : ∀ r q, next r = .ok q → q.OverrideHolds)
    (st : State) :
    (p.bindField key next).parse st =
      (p.flatMap fun r =>
        match next r with
        | .ok q => q.tryMap (Value.withField r key)
        | .error x => raise x).parse st := by
  rw [flatMap_parse]
  simp only [bindField]
  congr 1
  funext r rest
  cases hr : next r with
  | error x => rfl
  | ok q =>
    simp only [tryMap, (hnext r q hr).adjust_parse]
    congr 1
    funext v last
    cases r <;> rfl

/-! ### Chains of record steps -/

/-- A chain of record steps from the empty record, `do().bind(k1, q1)...bind(kn, qn)`: the
last field is bound outermost. -/
def fieldChain (fields : List (Text × (Value → Except Fault (Parser Value)))) : Parser Value :=
  fields.foldl (fun p f => p.bindField f.1 f.2) record

/-- The fields of a chain run in turn from the first, each field function given the record of
the bindings made so far, each field parser from the state the one before left; the result is
all bindings made, or the first failure or fault. -/
def runFields : List (Text × (Value → Except Fault (Parser Value))) → List (Text × Value) →
    State → Reply (List (Text × Value))
  | [], done, st => .ok done st
  | (key, next) :: more, done, st =>
    match next (.record (Value.recordOf done)) with
    | .error x => .raised x
    | .ok q => (q.parse st).bindValue fun v rest => runFields more (done ++ [(key, v)]) rest

theorem fieldChain_append_singleton (fields : List (Text × (Value → Except Fault (Parser Value))))
    (key : Text) (next : Value → Except Fault (Parser Value)) :
    fieldChain (fields ++ [(key, next)]) = (fieldChain fields).bindField key next := by
  simp [fieldChain]

theorem fieldChain_override (fields : List (Text × (Value → Except Fault (Parser Value)))) :
    (fieldChain fields).override = none := by
  induction fields using List.reverseRecOn with
  | nil => rfl
  | append_singleton fields f _ => rw [fieldChain_append_singleton]; rfl

theorem runFields_append (fields more : List (Text × (Value → Except Fault (Parser Value))))
    (done : List (Text × Value)) (st : State) :
    runFields (fields ++ more) done st =
      (runFields fields done st).bindValue fun done' rest => runFields more done' rest := by
  induction fields generalizing done st with
  | nil => rfl
  | cons f fields ih =>
    obtain ⟨key, next⟩ := f
    simp only [List.cons_append, runFields]
    cases next (.record (Value.recordOf done)) with
    | error x => rfl
    | ok q =>
      simp only [Reply.bindValue_bindValue]
      congr 1
      funext v rest
      exact ih _ rest

theorem runFields_keys {fields : List (Text × (Value → Except Fault (Parser Value)))}
    {done done' : List (Text × Value)} {st st' : State}
    (h : runFields fields done st = .ok done' st') :
    done'.map Prod.fst = done.map Prod.fst ++ fields.map Prod.fst := by
  induction fields generalizing done st with
  | nil =>
    cases h
    simp
  | cons f fields ih =>
    obtain ⟨key, next⟩ := f
    simp only [runFields] at h
    cases hn : next (.record (Value.recordOf done)) with
    | error x => simp [hn] at h
    | ok q =>
      rw [hn] at h
      obtain ⟨v, rest, -, hrest⟩ := Reply.bindValue_eq_ok h
      simp [ih hrest]

/-- Running a chain of record steps is running its fields in turn from the first and building
the record of their bindings. The induction takes the fields from the last, which the chain binds
outermost. -/
theorem fieldChain_parse (fields : List (Text × (Value → Except Fault (Parser Value))))
    (st : State) :
    (fieldChain fields).parse st =
      (runFields fields [] st).bindValue fun done rest =>
        .ok (.record (Value.recordOf done)) rest := by
  induction fields using List.reverseRecOn generalizing st with
  | nil => rfl
  | append_singleton fields f ih =>
    obtain ⟨key, next⟩ := f
    rw [fieldChain_append_singleton, runFields_append, bindField_parse,
      adjust_parse_of_none (fieldChain_override fields), ih]
    simp only [Reply.bindValue_bindValue]
    congr 1
    funext done rest
    rw [Reply.bindValue_ok]
    simp only [runFields]
    cases next (.record (Value.recordOf done)) with
    | error x => rfl
    | ok q =>
      simp only [Reply.bindValue_bindValue, Reply.bindValue_ok, Value.recordOf_append_singleton]

/-- `zip` and record steps are their `flatMap` definitions, on every state. `zip` agrees with
`flatMap` into `map` for parsers whose overrides hold, every built parser among them. A record
step agrees with `flatMap` into the field parser, its value spread into the record the field
function was given, for field functions whose parsers' overrides hold; a field function that
gives no parser faults only after the record parser succeeded, and a record parser's value that is
not a record faults only after the field parser succeeded. A chain of record steps from the empty
record runs its fields in turn on the threaded state, each bound under its key in order, and every
key of the record it builds holds the value of the last field bound under it. -/
theorem zip_bind_eq_flatMap_forms :
    (∀ {α β : Type} (a : Parser α) (b : Parser β), a.OverrideHolds → b.OverrideHolds → ∀ st,
      (a.zip b).parse st = (a.flatMap fun x => b.map fun y => (x, y)).parse st) ∧
    (∀ (p : Parser Value) (key : Text) (next : Value → Except Fault (Parser Value)),
      (∀ r q, next r = .ok q → q.OverrideHolds) → ∀ st,
      (p.bindField key next).parse st =
        (p.flatMap fun r =>
          match next r with
          | .ok q => q.tryMap (Value.withField r key)
          | .error x => raise x).parse st) ∧
    (∀ fields st, (fieldChain fields).parse st =
      (runFields fields [] st).bindValue fun done rest =>
        .ok (.record (Value.recordOf done)) rest) ∧
    (∀ fields done st done' st', runFields fields done st = .ok done' st' →
      done'.map Prod.fst = done.map Prod.fst ++ fields.map Prod.fst) ∧
    (∀ bindings key, Value.lookup (Value.recordOf bindings) key =
      Value.lookup bindings.reverse key) :=
  ⟨fun _ _ ha hb st => ha.zip_parse_eq_flatMap hb st,
    fun p key _ hnext st => bindField_parse_eq_flatMap p key hnext st,
    fieldChain_parse, fun _ _ _ _ _ h => runFields_keys h, Value.lookup_recordOf⟩

/-- A literal under a message of its own paired with another agrees with its `flatMap` form, and
so does a field that reads a digit into the empty record. -/
theorem zip_bind_on_literals :
    let a := (string "foo").error "no foo"
    let b := string "bar"
    let q : Parser Value := (string "1").map fun _ => .int 1
    a.OverrideHolds ∧ b.OverrideHolds ∧ q.OverrideHolds ∧
      (a.zip b).parse (State.initial "foobar") =
        (a.flatMap fun x => b.map fun y => (x, y)).parse (State.initial "foobar") ∧
      (record.bindField "x" fun _ => .ok q).parse (State.initial "1") =
        (record.flatMap fun r => q.tryMap (Value.withField r "x")).parse (State.initial "1") := by
  intro a b q
  have ha : a.OverrideHolds := (Built.error _ (.string _)).overrideHolds
  have hb : b.OverrideHolds := (Built.string _).overrideHolds
  have hq : q.OverrideHolds := (Built.tryMap _ (.string _)).overrideHolds
  have hnext : ∀ r q', (fun _ => .ok q : Value → Except Fault (Parser Value)) r = .ok q' →
      q'.OverrideHolds := by
    rintro r q' ⟨⟩
    exact hq
  exact ⟨ha, hb, hq, zip_bind_eq_flatMap_forms.1 a b ha hb _,
    zip_bind_eq_flatMap_forms.2.1 record "x" _ hnext _⟩

end Parser

end ParserCombinators
