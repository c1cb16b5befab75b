import BrowserRemote.Fault
import BrowserRemote.Text.Quoted
import BrowserRemote.Value.Decimal

/-!
# Value/Text — the text of a value

`text` is what goes into a path, a label or a message; `shown` is how a value stands inside a
container, where texts are quoted.  They differ on texts, commands and settings only.  An element
handle has neither, so a value has a text when no element is shown in it.  A whole number has one
however long it is: where the runtime sets a limit, 4300 digits unless told otherwise, it is taken
to be lifted.
-/

namespace BrowserRemote

/-- The items between brackets, apart by a comma and a space. -/
def commaSeparated (parts : List String) : String := ", ".intercalate parts

namespace Value

mutual

/-- **How a value stands inside a container.** -/
def shown : Value → Except Fault String
  | .null => .ok "None"
  | .bool b => .ok (if b then "True" else "False")
  | .int n => .ok (toString n)
  | .float x => .ok x.text
  | .str s => .ok (Text.quoted s)
  | .bytes bs => .ok (Text.quotedBytes bs)
  | .list items => do
    let parts ← shownItems items
    return "[" ++ commaSeparated parts ++ "]"
  | .tuple items => do
    let parts ← shownItems items
    return "(" ++ commaSeparated parts ++ (if parts.length = 1 then ",)" else ")")
  | .dict entries => do
    let parts ← shownEntries entries
    return "\x7b" ++ commaSeparated parts ++ "\x7d"
  | .element _ => .error .noOperation
  | .command c => .ok ("<CommandName." ++ c.constant ++ ": " ++ Text.quoted c.name ++ ">")
  | .settings _ => .ok "<wirecodec.config.Config object>"

/-- The items of a container, each as it stands there. -/
def shownItems : List Value → Except Fault (List String)
  | [] => .ok []
  | item :: items => do
    let part ← shown item
    let parts ← shownItems items
    return part :: parts

/-- The entries of a dictionary, key and value apart by a colon. -/
def shownEntries : List (Value × Value) → Except Fault (List String)
  | [] => .ok []
  | (key, value) :: entries => do
    let k ← shown key
    let v ← shown value
    let parts ← shownEntries entries
    return (k ++ ": " ++ v) :: parts

end

/-- The line that describes settings: their dialect, and where their atoms are read from. -/
def settingsText (s : Settings Value) : Except Fault String :=
  let describe (source : String) : Except Fault String :=
    .ok ("Codec configured for " ++ commaSeparated [s.dialect.key, source])
  match s.atomPath with
  | none => describe "packaged atoms"
  | some (.str path) => describe path
  | some _ => .error .wrongType

/-- **The text of a value.** -/
def text : Value → Except Fault String
  | .str s => .ok s
  | .command c => .ok ("CommandName." ++ c.constant)
  | .settings s => settingsText s
  | v => v.shown

@[simp] theorem text_str (s : String) : text (.str s) = .ok s := rfl

end Value

end BrowserRemote
