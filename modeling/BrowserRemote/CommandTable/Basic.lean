import BrowserRemote.Entries
import BrowserRemote.Route.Template
import BrowserRemote.Value.Designation

/-!
# CommandTable/Basic — which request a command becomes

A command table gives commands their templates, and other commands the command whose template they
share.  An alias is followed once: the command it leads to must have a template of its own.
-/

namespace BrowserRemote

/-- Templates by command, and aliases by command, each in the order they were added. -/
structure CommandTable where
  templates : List (Command × Template)
  aliases : List (Command × Command)

namespace CommandTable

/-- The table of given entries, later ones before earlier ones of the same command. -/
def ofEntries (templates : List (Command × Template)) (aliases : List (Command × Command)) :
    CommandTable :=
  ⟨setEntries templates, setEntries aliases⟩

/-- A command with a template or an alias. -/
def has (t : CommandTable) (c : Command) : Bool :=
  (t.templates.lookup c).isSome || (t.aliases.lookup c).isSome

/-- The commands with a template or an alias. -/
def commands (t : CommandTable) : List Command := Command.all.filter t.has

/-- The template of a command: that of its alias if it has one, or its own. -/
def template? (t : CommandTable) (c : Command) : Option Template :=
  t.templates.lookup ((t.aliases.lookup c).getD c)

/-- The value designates a command of the table. -/
def supports (t : CommandTable) (name : Value) : Except Fault Bool := do
  match ← name.designated? with
  | some c => return t.has c
  | none => return false

/-- The failure to find a request for a name. -/
def unsupported {α : Type} (name : Value) : Except Fault α := do
  throw (.unsupported (← name.label))

/-- **The template of the command a value designates.** -/
def resolve (t : CommandTable) (name : Value) : Except Fault Template := do
  match ← name.designated? with
  | none => unsupported name
  | some c => match t.template? c with
    | some template => return template
    | none => unsupported name

end CommandTable

end BrowserRemote
