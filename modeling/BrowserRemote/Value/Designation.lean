import BrowserRemote.Value.Text

/-!
# Value/Designation — the command a value designates

A command designates itself, a text the command of that name, and no other value any.  The label
of a value is the word it is called by in messages: a command's name, or the value's text.
-/

namespace BrowserRemote.Value

/-- **The command a value designates.**  A value that cannot be shown is no name at all. -/
def designated? : Value → Except Fault (Option Command)
  | .command c => .ok (some c)
  | .str s => .ok (Command.ofName? s)
  | v => do
    let _ ← v.shown
    return none

/-- **The word a value is called by.** -/
def label : Value → Except Fault String
  | .command c => .ok c.name
  | v => v.text

@[simp] theorem designated?_command (c : Command) : designated? (.command c) = .ok (some c) := rfl

@[simp] theorem designated?_str (s : String) :
    designated? (.str s) = .ok (Command.ofName? s) := rfl

/-- A command and its name designate the same. -/
theorem designated?_name (c : Command) :
    designated? (.str c.name) = designated? (.command c) := by
  simp [Command.ofName?_name]

/-- A command and its name are called alike. -/
theorem label_name (c : Command) : label (.str c.name) = label (.command c) := rfl

end BrowserRemote.Value
