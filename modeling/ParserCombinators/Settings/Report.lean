import ParserCombinators.Settings.Grammar
/-!
The settings command: it reads a document and prints one line `name = value` per setting in the
order they were read, a number in decimal and a text quoted, and ends with status 0. A document
that fails to read prints the error rendered against the document and ends with status 1. A
reading that faults, or an error that cannot be rendered, stops the command with that fault.
-/

namespace ParserCombinators

namespace Settings

structure Output where
  stdout : Text
  /-- The exit status: 0 for success. -/
  exit : Nat
deriving DecidableEq, Repr

/-- A value as the command prints it: a number in decimal, a text quoted. -/
def SettingValue.shown : SettingValue → Text
  | .number n => toString n
  | .text s => Text.quote s

def line (name : Text) (v : SettingValue) : Text :=
  name ++ " = " ++ v.shown ++ "\n"

def read (source : Text) : Reply Document :=
  document.run source

def command (source : Text) : Except Fault Output :=
  match read source with
  | .ok doc _ => .ok ⟨(doc.map fun s => line s.1 s.2).flatten, 0⟩
  | .failed e => do return ⟨(← e.render source) ++ "\n", 1⟩
  | .raised x => .error x

end Settings

end ParserCombinators
