import ParserCombinators.Parser.Char
import ParserCombinators.Text.Letter
import ParserCombinators.Text.Numeric
import ParserCombinators.Text.Space
import ParserCombinators.Text.Numeral
/-!
A settings format: `name = value` lines, where a name is a letter or underscore followed by
letters, digits and underscores, and a value is a decimal numeral or a text in double quotes
that holds no quote and no newline. Spaces and tabs may surround the parts of a setting, white
space of any kind may stand between settings, and a name may be set only once.

Letters, digits and white space are those of Unicode, so `日本 = "語"` and `x = ٣٤` are settings.
A numeral is read with `Text.readDecimal`, so a digit that is not a decimal digit (a superscript,
say) passes the recogniser and then faults.

The grammar reads one setting per round. A round that does not end the document reads at least
the first character of a name, so `Settings.document` gives itself one round more than its input
has characters.
-/

namespace ParserCombinators

namespace Settings

inductive SettingValue where
  | number (n : Nat)
  | text (s : Text)
deriving DecidableEq, Repr, Inhabited

/-- How a value is written in a document: a number in decimal, a text between double quotes. -/
def SettingValue.written : SettingValue → Text
  | .number n => toString n
  | .text s => "\"" ++ s ++ "\""

structure Entry where
  name : Text
  value : SettingValue
deriving DecidableEq, Repr, Inhabited

/-- Settings in the order they were read, each name once. -/
abbrev Document := List (Text × SettingValue)

def blanks : Parser Text :=
  Parser.span (fun c => c == ' ' || c == '\t') "blanks"

/-- White space of any kind. -/
def blankLines : Parser Text :=
  Parser.span Text.isSpace "blank lines"

def lexeme (p : Parser α) : Parser α :=
  p.flatMap fun v => blanks.map fun _ => v

/-- A letter or underscore, then letters, digits and underscores. -/
def identifier : Parser Text :=
  ((Parser.satisfy (fun c => Text.isLetter c || c == '_') "identifier").flatMap fun first =>
    (Parser.span (fun c => Text.isAlphanumeric c || c == '_') "identifier").map fun rest =>
      first :: rest).named "identifier"

/-- The body of a quoted text: everything up to a quote or a newline. -/
def quotedBody : Parser Text :=
  Parser.span (fun c => c != '"' && c != '\n') "string body"

def value : Parser SettingValue :=
  ((Parser.satisfy (fun c => c == '"' || Text.isDigit c) "value").flatMap fun first =>
    if first == '"' then
      quotedBody.flatMap fun body =>
        ((Parser.char '"').error "unterminated string").map fun _ => SettingValue.text body
    else
      (Parser.span Text.isDigit "digits").tryMap fun rest =>
        (Text.readDecimal (first :: rest)).map SettingValue.number).named "value"

/-- One setting: a name, an equals sign and a value, each followed by spaces and tabs. A missing
equals sign is reported as such. -/
def setting : Parser Entry :=
  (lexeme identifier).flatMap fun name =>
    ((lexeme (Parser.char '=')).error "expected '=' after setting name").flatMap fun _ =>
      (lexeme value).map fun v => ⟨name, v⟩

def duplicateMessage (name : Text) : Text :=
  "duplicate setting " ++ Text.quote name

/-- Settings after those of `doc` until the input ends, for at most `rounds` more settings.
Each round looks at the input that is left; at its end the document is complete, otherwise a
setting and the white space after it are read. -/
def entries : Nat → Document → Parser Document
  | rounds, doc =>
    Parser.peek.flatMap fun rest =>
      if rest.isEmpty then Parser.pure doc
      else
        match rounds with
        | 0 => Parser.raise .endlessLoop
        | rounds + 1 =>
          setting.flatMap fun e =>
            if doc.any (·.1 == e.name) then Parser.fail (duplicateMessage e.name)
            else blankLines.flatMap fun _ => entries rounds (doc ++ [(e.name, e.value)])

/-- A settings document: white space, then settings separated by white space. -/
def document : Parser Document :=
  (blankLines.flatMap fun _ =>
    Parser.peek.flatMap fun rest => entries (rest.length + 1) []).named "settings"

end Settings

end ParserCombinators
