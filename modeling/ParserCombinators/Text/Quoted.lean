import ParserCombinators.Text.Printable
/-!
Quoted text literals. A text is written between apostrophes, or between double quotes when it
holds an apostrophe and no double quote. Inside, the backslash and the chosen quote are escaped,
tab, newline and carriage return are written as their letters, other control characters and
code points that are not printable (surrogates among them) become hexadecimal escapes of two,
four or eight lowercase digits, and every other character stands for itself.

Main statements: `escape_append` (a text is escaped piece by piece) and `escapeChar_plain`
(a printable ASCII character other than a quote or backslash is written as itself).
-/

namespace ParserCombinators.Text

def hexPadded (width n : Nat) : Text :=
  let digits := Nat.toDigits 16 n
  (List.replicate (width - digits.length) '0' ++ digits).map CodePoint.ofChar

/-- The quote a text is written between: the apostrophe, unless the text holds an apostrophe and
no double quote. -/
def quoteFor (s : Text) : CodePoint :=
  if s.contains '\'' && !s.contains '"' then '"' else '\''

def escapeChar (q c : CodePoint) : Text :=
  if c = '\\' then ['\\', '\\']
  else if c = q then ['\\', q]
  else if c = '\t' then ['\\', 't']
  else if c = '\n' then ['\\', 'n']
  else if c = '\r' then ['\\', 'r']
  else if c.val < 0x20 ∨ c.val = 0x7f then "\\x" ++ hexPadded 2 c.val
  else if c.val < 0x80 ∨ isPrintable c then [c]
  else if c.val < 0x100 then "\\x" ++ hexPadded 2 c.val
  else if c.val < 0x10000 then "\\u" ++ hexPadded 4 c.val
  else "\\U" ++ hexPadded 8 c.val

def escape (q : CodePoint) : Text → Text
  | [] => []
  | c :: cs => escapeChar q c ++ escape q cs

def quote (s : Text) : Text :=
  let q := quoteFor s
  q :: escape q s ++ [q]

def quoteChar (c : CodePoint) : Text :=
  quote [c]

theorem escape_cons (q c : CodePoint) (cs : Text) :
    escape q (c :: cs) = escapeChar q c ++ escape q cs := rfl

theorem escape_append (q : CodePoint) (s t : Text) :
    escape q (s ++ t) = escape q s ++ escape q t := by
  induction s with
  | nil => rfl
  | cons c cs ih => simp [escape_cons, ih]

theorem escapeChar_plain (q c : CodePoint) (hlo : 0x20 ≤ c.val) (hhi : c.val < 0x7f)
    (hb : c ≠ '\\') (hq : c ≠ q) : escapeChar q c = [c] := by
  have ht : c ≠ '\t' := by rintro rfl; simp at hlo
  have hn : c ≠ '\n' := by rintro rfl; simp at hlo
  have hr : c ≠ '\r' := by rintro rfl; simp at hlo
  have hc : ¬ (c.val < 0x20 ∨ c.val = 0x7f) := by omega
  have ha : c.val < 0x80 := by omega
  simp only [escapeChar, hb, hq, ht, hn, hr, hc, ha, true_or, if_true, if_false]

example : quote "it's" = "\"it's\"" := by decide +kernel
example : quote "a\tb\\" = "'a\\tb\\\\'" := by decide +kernel
example : quote "'\"" = "'\\'\"'" := by decide +kernel
example : quote [CodePoint.ofNat 0xd800] = "'\\ud800'" := by decide +kernel

end ParserCombinators.Text
