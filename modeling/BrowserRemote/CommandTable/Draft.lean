import BrowserRemote.CommandTable.Basic
import BrowserRemote.Log.Traced
import BrowserRemote.Stateful

/-!
# CommandTable/Draft — building a command table

A draft takes definitions and aliases one at a time and refuses what would make the table
inconsistent: a command used twice, a method that is none, an alias of a command that is not
defined yet.  Drafting works on a desk, where the draft and the records about it lie: what a call
did there stays done, also when the call fails in the end.
-/

namespace BrowserRemote

/-- A command table that is being built. -/
structure Draft where
  templates : List (Command × Template)
  aliases : List (Command × Command)

/-- What drafting works on: the draft as it stands, and the records written so far. -/
structure Desk where
  draft : Draft
  records : List Record

/-- Work on a desk that may fail; what it did to the desk stays done. -/
abbrev Drafting := ExceptT Fault (StateM Desk)

namespace Desk

/-- Writes a record behind the others. -/
def write (r : Record) : Drafting Unit :=
  modify fun desk => { desk with records := desk.records ++ [r] }

/-- Sets the template of a command. -/
def setTemplate (c : Command) (t : Template) : Drafting Unit := modify fun desk =>
  { desk with draft := { desk.draft with templates := setEntry desk.draft.templates c t } }

/-- Sets the alias of a command. -/
def setAlias (c target : Command) : Drafting Unit := modify fun desk =>
  { desk with draft := { desk.draft with aliases := setEntry desk.draft.aliases c target } }

end Desk

namespace Draft

/-- The draft before anything is added. -/
def empty : Draft := ⟨[], []⟩

/-- The table as it stands. -/
def build (d : Draft) : CommandTable := ⟨d.templates, d.aliases⟩

/-- The command a value must designate. -/
def required (name : Value) : Except Fault Command := do
  match ← name.designated? with
  | some c => return c
  | none => throw (.unknownCommand (← name.label))

/-- The command is in neither table. -/
def checkUnused (d : Draft) (c : Command) (label : String) : Except Fault Unit :=
  if (d.templates.lookup c).isSome then .error (.alreadyDefined label)
  else if (d.aliases.lookup c).isSome then .error (.alreadyAliased label)
  else .ok ()

/-- The methods of requests. -/
def methods : List String := ["GET", "POST", "DELETE"]

/-- The template a command is to be defined with: its method must be one of the three. -/
def checkedTemplate (label : String) (method path : Value) : Except Fault Template :=
  match method with
  | .str m => if m ∈ methods then .ok ⟨.str m, path⟩ else .error (.unknownMethod label m)
  | v => do throw (.unknownMethod label (← v.text))

/-- What a definition adds, and the label it goes by. -/
def definition (d : Draft) (name method path : Value) :
    Except Fault (String × Command × Template) := do
  let c ← required name
  let label ← name.label
  d.checkUnused c label
  return (label, c, ← checkedTemplate label method path)

/-- The record of a definition. -/
def definitionRecord (label : String) (t : Template) : Record :=
  ⟨.registry, .debug, do return "defining " ++ label ++ " as " ++ (← t.text)⟩

/-- **Defines a command** by a method and a path. -/
def define (name method path : Value) : Drafting Unit := do
  let (label, c, t) ← (← get).draft.definition name method path
  Desk.write (definitionRecord label t)
  Desk.setTemplate c t

/-- What an alias adds, and the labels its two ends go by. -/
def aliasing (d : Draft) (name target : Value) :
    Except Fault ((String × String) × Command × Command) := do
  let c ← required name
  let label ← name.label
  let e ← required target
  d.checkUnused c label
  let targetLabel ← target.label
  if (d.templates.lookup e).isSome then return ((label, targetLabel), c, e)
  else throw (.undefinedTarget label targetLabel)

/-- The record of an alias. -/
def aliasRecord (label targetLabel : String) : Record :=
  ⟨.registry, .debug, .ok ("aliasing " ++ label ++ " to " ++ targetLabel)⟩

/-- **Gives a command the template of another one**, which must be defined. -/
def addAlias (name target : Value) : Drafting Unit := do
  let ((label, targetLabel), c, e) ← (← get).draft.aliasing name target
  Desk.write (aliasRecord label targetLabel)
  Desk.setAlias c e

/-! ## Calls -/

/-- An addition that is asked for. -/
inductive Call where
  | define (name method path : Value)
  | addAlias (name target : Value)

/-- The definition of a command by a template. -/
def Call.defines (c : Command) (t : Template) : Call :=
  .define (.command c) t.method t.path

/-- The alias of a command. -/
def Call.aliases (c target : Command) : Call := .addAlias (.command c) (.command target)

/-- **Makes one addition.** -/
def perform : Call → Drafting Unit
  | .define name method path => define name method path
  | .addAlias name target => addAlias name target

/-- Makes additions one after the other, up to the first that is refused. -/
def performAll : List Call → Drafting Unit
  | [] => return
  | call :: calls => do
    perform call
    performAll calls

/-- The draft that work on this one leaves, and the records written on the way. -/
def after (d : Draft) (work : Drafting Unit) : Traced Draft :=
  match work ⟨d, []⟩ with
  | (.ok (), desk) => ⟨.ok desk.draft, desk.records⟩
  | (.error fault, desk) => ⟨.error fault, desk.records⟩

end Draft

end BrowserRemote
