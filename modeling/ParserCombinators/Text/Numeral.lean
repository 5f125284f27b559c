import ParserCombinators.Text.Digit
import ParserCombinators.Fault
/-!
Decimal numerals in any script. A numeral is read digit by digit from the decimal digits of
Unicode, each worth its value, so `٣٤` reads as 34. Reading refuses a numeral that is longer than
the digit limit, counted up to its first character that is no decimal digit, and otherwise
refuses a text that is empty or holds such a character (a superscript digit, say) as an invalid
literal.
-/

namespace ParserCombinators.Text

/-- The number a list of decimal digits stands for; a character that is no decimal digit counts
as zero. -/
def decimalDigitsValue (digits : Text) : Nat :=
  digits.foldl (fun n c => n * 10 + (decimalValue? c).getD 0) 0

/-- Reads a decimal numeral. A leading run of decimal digits longer than the limit is refused
with its length before anything else is looked at; then an empty text, or one holding a character
that is no decimal digit, is an invalid literal. -/
def readDecimal (text : Text) : Except Fault Nat :=
  let lead := text.takeWhile isDecimal
  if Fault.digitLimit < lead.length then .error (.tooManyDigits lead.length)
  else if text.isEmpty || lead.length < text.length then .error (.invalidLiteral text)
  else .ok (decimalDigitsValue text)

example : (readDecimal "007").toOption = some 7 := by decide
example : (readDecimal "٣٤").toOption = some 34 := by decide
example : (readDecimal "1²").toOption = none := by decide

end ParserCombinators.Text
