import BrowserRemote.Setup.Host
import BrowserRemote.Setup.Workspace

/-!
# Setup/Load — loading a setup file

Loading runs the file, takes the settings it left in one variable and the level it left in another,
and reports.  A file that fails, sets no settings or asks for a level there is not leaves the level
as it was and reports nothing.
-/

namespace BrowserRemote

/-- A setup file that has been loaded. -/
structure Setup where
  path : String
  /-- What the file left as settings; any value but `null`. -/
  settings : Value
  bindings : Variables

namespace Setup

/-- The variable settings are left in. -/
def settingsName : String := "CONFIG"

/-- The variable a level is left in. -/
def levelName : String := "LOG_LEVEL"

/-- What a file left in a variable, `null` counting as nothing. -/
def left? (vars : Variables) (name : String) : Option Value :=
  (vars.lookup name).bind Value.present?

/-- **The level a value asks for**: a number, a truth value as a number, or a level's name. -/
def levelOf : Value → Except Fault Int
  | .int n => .ok n
  | .bool b => .ok b.toInt
  | .str s => match Log.levelOfName? s with
    | some level => .ok level
    | none => .error (.unknownLevel (Text.quoted s))
  | v => do
    let _ ← v.text
    throw .wrongType

/-- The record of a file that has been loaded. -/
def report (settings : Value) (path : String) : Record :=
  ⟨.builder, .debug, do return (← settings.text) ++ " (from " ++ path ++ ")"⟩

/-- **Loads the setup file at a path** with options. -/
def load (w : Workspace) (path : String) (options : Value) : Hosted Setup := do
  let statements ← w.statementsAt path
  let vars ← Host.onShelf (run [(optionsName, options)] statements)
  match left? vars settingsName with
  | none => throw (.settingsUnset path)
  | some settings =>
    match left? vars levelName with
    | some asked => Host.setLevel (← levelOf asked)
    | none => pure ()
    Host.log (report settings path)
    return ⟨path, settings, vars⟩

/-- The attributes that every object has. -/
def commonAttributes : List String := [
  "__class__", "__delattr__", "__dict__", "__dir__", "__doc__", "__eq__", "__format__", "__ge__",
  "__getattribute__", "__getstate__", "__gt__", "__hash__", "__init__", "__init_subclass__",
  "__le__", "__lt__", "__module__", "__ne__", "__new__", "__reduce__", "__reduce_ex__", "__repr__",
  "__setattr__", "__sizeof__", "__str__", "__subclasshook__", "__weakref__"]

/-- **The attributes of a setup itself**: its settings, its path, its variables all together, what
it can be asked to do, and what every object has. -/
def ownAttributes : List String :=
  "config" :: "config_path" :: "local_conf" :: "get_codec" :: "__getattr__" :: commonAttributes

/-- The variable in which the runtime keeps its own names while a file runs. -/
def runtimeName : String := "__builtins__"

/-- **An attribute of a setup**: one of its own, or else a variable of the file.  Of its own, only
the settings and the path are values; and the runtime's own names are no value either. -/
def readAttribute (s : Setup) (name : String) : Except Fault Value :=
  if name = "config" then .ok s.settings
  else if name = "config_path" then .ok (.str s.path)
  else if name ∈ ownAttributes then .error .wrongType
  else match s.bindings.lookup name with
    | some v => .ok v
    | none =>
      if name = runtimeName then .error .wrongType else .error (.noAttribute (Text.quoted name))

/-- **The encoder of a setup**, if it was left settings. -/
def encoder (s : Setup) : Traced Encoder :=
  match s.settings with
  | .settings settings => settings.encoder
  | _ => .fail .noOperation

end Setup

end BrowserRemote
