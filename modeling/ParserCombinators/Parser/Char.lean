import ParserCombinators.Parser.Combinators
/-!
Recognisers of code points. Each reports what it read through `Reply.succeed`, so the input and the
position move together, and each is named by what it accepts.

* `satisfy pred desc` reads one code point that passes `pred`; on any other code point, or at the
  end of the input, it fails where it stands with `desc` as the accepted alternative.
* `char c` and `anyChar` are `satisfy` for one code point and for every code point.
* `string s` reads `s` whole or fails where it stands, naming what it found instead.
* `span pred desc` reads the longest run of code points that pass `pred`, possibly none.

A surrogate that is not half of a pair is a code point like any other: it is read, compared and
quoted on its own.
-/

namespace ParserCombinators

namespace Parser

/-- Reads one code point that passes `pred`. The failure message names the code point found, or
the end of the input; `desc` is the accepted alternative and the name. -/
def satisfy (pred : CodePoint → Bool) (desc : Text := "character") : Parser CodePoint where
  parse st :=
    match st.input with
    | [] => .failed ⟨"unexpected end of input", [desc], st.pos⟩
    | c :: _ =>
      if pred c then Reply.succeed c st [c]
      else .failed ⟨"unexpected " ++ Text.quoteChar c, [desc], st.pos⟩
  name := desc

def char (c : CodePoint) : Parser CodePoint :=
  satisfy (· == c) (Text.quoteChar c)

def anyChar : Parser CodePoint :=
  satisfy (fun _ => true) "any character"

/-- The message of a literal that does not match: the text found where it should stand, at most
as long as the literal, or the end of the input when nothing is left. -/
def mismatch (found : Text) : Text :=
  if found.isEmpty then "unexpected end of input"
  else "unexpected " ++ Text.quote found

/-- Reads the text `s` whole. On a mismatch it fails where it stands, naming what it found
instead; the quoted literal is the accepted alternative and the name. -/
def string (s : Text) : Parser Text where
  parse st :=
    if s <+: st.input then Reply.succeed s st s
    else .failed ⟨mismatch (st.input.take s.length), [Text.quote s], st.pos⟩
  name := Text.quote s

/-- Reads the longest run of code points that pass `pred`, possibly empty, and never fails. -/
def span (pred : CodePoint → Bool) (desc : Text := "span") : Parser Text where
  parse st :=
    let run := st.input.takeWhile pred
    Reply.succeed run st run
  name := desc

theorem satisfy_parse_nil (pred : CodePoint → Bool) (desc : Text) (pos : SourcePos) :
    (satisfy pred desc).parse ⟨[], pos⟩ = .failed ⟨"unexpected end of input", [desc], pos⟩ := rfl

theorem satisfy_parse_of_pred (pred : CodePoint → Bool) (desc : Text) (c : CodePoint)
    (rest : Text) (pos : SourcePos) (h : pred c = true) :
    (satisfy pred desc).parse ⟨c :: rest, pos⟩ = .ok c ⟨rest, pos.advance [c]⟩ := by
  simp [satisfy, h, Reply.succeed, State.consume]

theorem span_parse (pred : CodePoint → Bool) (desc : Text) (st : State) :
    (span pred desc).parse st =
      .ok (st.input.takeWhile pred)
        ⟨st.input.drop (st.input.takeWhile pred).length, st.pos.advance (st.input.takeWhile pred)⟩ := by
  simp only [span, Reply.succeed, State.consume]
  by_cases h : (st.input.takeWhile pred).isEmpty
  · have h0 : st.input.takeWhile pred = [] := List.isEmpty_iff.mp h
    simp [h0]
  · have hp : st.input.takeWhile pred <+: st.input := List.takeWhile_prefix pred
    simp [h, hp]

end Parser

end ParserCombinators
