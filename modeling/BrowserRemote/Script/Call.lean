import BrowserRemote.Atom.Repository
import BrowserRemote.Script.Wire

/-!
# Script/Call — calls of scripts and of atoms

A call is the body of a script and its arguments as they travel.  In the body every double quote
gets a backslash, and nothing else changes.  The call of an atom runs a body that applies the
atom's source to the arguments.
-/

namespace BrowserRemote.Script

/-- The body of a script, and its arguments as they travel. -/
structure Call where
  body : String
  args : List Value

/-- The parameters of the command that runs a script. -/
def Call.parameters (call : Call) : Dict :=
  [(.str "script", .str call.body), (.str "args", .list call.args)]

/-- A backslash in front of every double quote. -/
def escapeQuotes : List Char → List Char
  | [] => []
  | c :: cs => if c = '"' then '\\' :: '"' :: escapeQuotes cs else c :: escapeQuotes cs

/-- **The call of a script.** -/
def call (body : String) (args : List Value) : Call :=
  ⟨String.ofList (escapeQuotes body.toList), args.map toWire⟩

/-- The call of a value as a script: it must be a text. -/
def callOf (body : Value) (args : List Value) : Except Fault Call :=
  match body with
  | .str s => .ok (call s args)
  | .bytes _ => .error .wrongType
  | _ => .error .noOperation

/-- The body that applies a function, given by its source, to the arguments of the script. -/
def applied (source : String) : String := "return (" ++ source ++ ").apply(null, arguments);"

/-- The source a repository answers a name with, if there is a repository. -/
def sourceFrom (files : FileTree) (atoms : Option Repository) (name : Value) : Traced Value :=
  match atoms with
  | some repository => repository.source files name
  | none => .fail .noOperation

/-- What a failure to find an atom becomes: a resource failure is recorded and wrapped, any other
failure stays as it is. -/
def wrapFailure (name : Value) (fault : Fault) : Traced Value :=
  if fault.isResourceFailure then do
    let label ← name.text
    .write .scripts .warning ("cannot load atom " ++ label ++ ": " ++ fault.message)
    throw (.scriptUnavailable name label fault)
  else throw fault

/-- The source of an atom, or its failure as `wrapFailure` has it. -/
def atomSource (files : FileTree) (atoms : Option Repository) (name : Value) : Traced Value :=
  tryCatch (sourceFrom files atoms name) (wrapFailure name)

/-- **The call of an atom.** -/
def callAtom (files : FileTree) (atoms : Option Repository) (name : Value) (args : List Value) :
    Traced Call := do
  let source ← atomSource files atoms name
  let text ← source.text
  return call (applied text) args

end BrowserRemote.Script
