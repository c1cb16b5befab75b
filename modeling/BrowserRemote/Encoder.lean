import BrowserRemote.Adaptation.Rules
import BrowserRemote.Dialect.Tables

/-!
# Encoder — commands as requests

An encoder has a command table, rules and a way of finding atoms.  The template of a command is
found first, aliases followed; then the command's own rule adapts the parameters; then the path is
filled from the adapted parameters and the session.
-/

namespace BrowserRemote

/-- A request: its method, its path and its parameters. -/
structure Request where
  method : Value
  path : String
  parameters : Dict

/-- What turns commands into requests. -/
structure Encoder where
  table : CommandTable
  rules : Rules
  atoms : Option Repository

namespace Encoder

/-- Parameters that are not given are none. -/
def given (parameters : Value) : Value := (parameters.present?).getD (.dict [])

/-- **The plan of a request**: its template, and the parameters to send with it. -/
def plan (e : Encoder) (files : FileTree) (name parameters : Value) :
    Traced (Template × Dict) := do
  let template ← e.table.resolve name
  let adapted ← e.rules.adapt files e.atoms name (given parameters)
  let label ← name.label
  .writeLater .codec .debug do return "translated " ++ label ++ " to " ++ (← template.text)
  return (template, adapted)

/-- The values a path is filled from: the parameters, and the session if there is one. -/
def pathValues (parameters : Dict) (session : Value) : Dict :=
  match session.present? with
  | some s => parameters.setField "sessionId" s
  | none => parameters

/-- **The request of a command.** -/
def encode (e : Encoder) (files : FileTree) (name parameters session : Value) :
    Traced Request := do
  let (template, adapted) ← e.plan files name parameters
  let path ← template.expand (.dict (pathValues adapted session))
  return ⟨template.method, path, adapted⟩

end Encoder

namespace Dialect

/-- The rules of a dialect. -/
def rules : Dialect → Rules
  | .w3c => Rules.w3c
  | .jsonWire => Rules.jsonWire

/-- The way atoms are found in a dialect: the packaged ones unless another way is given, and in the
JSON wire dialect, which needs none, only what is given. -/
def atoms : Dialect → Option Repository → Option Repository
  | .w3c, given => some (given.getD .packaged)
  | .jsonWire, given => given

/-- **The encoder of a dialect.** -/
def encoder (dialect : Dialect) (given : Option Repository) : Traced Encoder := do
  let table ← dialect.table
  return ⟨table, dialect.rules, dialect.atoms given⟩

end Dialect

end BrowserRemote
