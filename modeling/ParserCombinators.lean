import ParserCombinators.Claim
import ParserCombinators.Double
import ParserCombinators.Fault
import ParserCombinators.Main
import ParserCombinators.ParseError
import ParserCombinators.ParseError.OfValues
import ParserCombinators.Parser.Basic
import ParserCombinators.Parser.Char
import ParserCombinators.Parser.Combinators
import ParserCombinators.Parser.Record
import ParserCombinators.Parser.Routine
import ParserCombinators.Position
import ParserCombinators.Proofs.Annotations
import ParserCombinators.Proofs.Built
import ParserCombinators.Proofs.Consume
import ParserCombinators.Proofs.InStep
import ParserCombinators.Proofs.Laws
import ParserCombinators.Proofs.Literal
import ParserCombinators.Proofs.Override
import ParserCombinators.Proofs.Position
import ParserCombinators.Proofs.Reanchor
import ParserCombinators.Proofs.Recognisers
import ParserCombinators.Proofs.Records
import ParserCombinators.Proofs.Render
import ParserCombinators.Proofs.Routine
import ParserCombinators.Proofs.Sequencing
import ParserCombinators.Proofs.SettingsDocument
import ParserCombinators.Proofs.SettingsFaults
import ParserCombinators.Proofs.SettingsGrammar
import ParserCombinators.Proofs.SettingsLayout
import ParserCombinators.Proofs.SettingsLoop
import ParserCombinators.Recipe.Basic
import ParserCombinators.Recipe.Build
import ParserCombinators.Recipe.CharTest
import ParserCombinators.Recipe.Env
import ParserCombinators.Recipe.Expr
import ParserCombinators.Recipe.Read
import ParserCombinators.Recipe.Template
import ParserCombinators.Reply
import ParserCombinators.Settings.Grammar
import ParserCombinators.Settings.Report
import ParserCombinators.State
import ParserCombinators.Tagged
import ParserCombinators.Text.Basic
import ParserCombinators.Text.Capital
import ParserCombinators.Text.CodeRanges
import ParserCombinators.Text.Digit
import ParserCombinators.Text.Letter
import ParserCombinators.Text.Numeral
import ParserCombinators.Text.Numeric
import ParserCombinators.Text.Printable
import ParserCombinators.Text.Quoted
import ParserCombinators.Text.Space
import ParserCombinators.Value
import ParserCombinators.Value.Access
