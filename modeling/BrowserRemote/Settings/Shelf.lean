import BrowserRemote.Encoder
import BrowserRemote.Entries
import BrowserRemote.Text.Uppercase

/-!
# Settings/Shelf — settings by dialect

A shelf keeps the latest settings of each dialect.  Dialects are asked for in any case and by
several names.  Settings that cannot be made leave the shelf as it was.
-/

namespace BrowserRemote

/-- The settings of each dialect, and how many settings have been made. -/
structure Shelf where
  entries : List (Dialect × Settings Value)
  made : Nat

namespace Dialect

/-- **The key a name of a dialect stands for**: its upper case, the short names of the JSON wire
dialect spelt out. -/
def normalKey (name : String) : String :=
  let key := Text.upper name
  if key = "OSS" ∨ key = "JWP" ∨ key = "JSON" then Dialect.jsonWire.key else key

/-- The key a value stands for: it must be a text. -/
def keyOf : Value → Except Fault String
  | .str name => .ok (normalKey name)
  | .bytes _ => .error .wrongType
  | _ => .error .noOperation

end Dialect

namespace Shelf

/-- A shelf with nothing on it. -/
def empty : Shelf := ⟨[], 0⟩

/-- The dialect of a key. -/
def dialectOf (key : String) : Except Fault Dialect :=
  match Dialect.ofKey? key with
  | some d => .ok d
  | none => .error (.unknownDialect key)

/-- Makes settings and puts them on the shelf in place of those of their dialect. -/
def make (shelf : Shelf) (dialect atomPath atoms : Value) :
    Except Fault (Settings Value × Shelf) := do
  let d ← dialectOf (← Dialect.keyOf dialect)
  let entries ← match atoms.present? with
    | some v => v.toDict
    | none => pure []
  let s : Settings Value := ⟨shelf.made, d, atomPath.present?, entries⟩
  return (s, ⟨setEntry shelf.entries d s, shelf.made + 1⟩)

/-- **The settings of a dialect**, by any of its names. -/
def find (shelf : Shelf) (dialect : Value) : Except Fault (Settings Value) := do
  let key ← Dialect.keyOf dialect
  match (Dialect.ofKey? key).bind fun d => shelf.entries.lookup d with
  | some s => return s
  | none => throw (.noSettings key)

/-- Takes all settings from the shelf. -/
def clear (shelf : Shelf) : Shelf := { shelf with entries := [] }

end Shelf

namespace Settings

/-- Where the atoms of settings are found: their own first, then the directory they name, or the
packaged ones if they name none. -/
def repository (s : Settings Value) : Repository :=
  let base := match s.atomPath with
    | some path => .directory path
    | none => .packaged
  if s.atoms.isEmpty then base else .mapping s.atoms (some base)

/-- **The encoder made from settings.** -/
def encoder (s : Settings Value) : Traced Encoder := s.dialect.encoder (some s.repository)

end Settings

end BrowserRemote
