import BrowserRemote.Settings.Shelf

/-!
# Setup/Program — the statements of a setup file

A setup file sets variables: to values, to options it is run with, to other variables, or to
settings it makes on the way.  It may leave statements to the presence of an option.  Settings are
put on the shelf as they are made, so those made before a failure stay there.
-/

namespace BrowserRemote

/-- What a variable is set to. -/
inductive Expr where
  | value (v : Value)
  /-- The option under a key. -/
  | fromOption (key : String)
  | fromVariable (name : String)
  /-- New settings, from fields in the order they are written. -/
  | newSettings (fields : List (String × Expr))

/-- A statement of a setup file. -/
inductive Statement where
  | assign (name : String) (e : Expr)
  /-- Statements run if the option under a key holds. -/
  | whenOption (key : String) (body : List Statement)
  /-- A name that stands alone: there must be such a variable. -/
  | mention (name : String)

/-- The variables of a setup file. -/
abbrev Variables := List (String × Value)

/-- A computation that makes settings and may fail; what it made stays made. -/
abbrev Making := ExceptT Fault (StateM Shelf)

namespace Setup

/-- The variable the options are in. -/
def optionsName : String := "builder_args"

/-- The value of a variable. -/
def readVariable (vars : Variables) (name : String) : Except Fault Value :=
  match vars.lookup name with
  | some v => .ok v
  | none => .error .unboundVariable

/-- The option under a key, which must be there. -/
def option (vars : Variables) (key : String) : Except Fault Value := do
  match ← readVariable vars optionsName with
  | .dict entries =>
    match Dict.field? entries key with
    | some v => return v
    | none => throw .missingOption
  | _ => throw .wrongType

/-- The option under a key holds; one that is not there does not. -/
def optionHolds (vars : Variables) (key : String) : Except Fault Bool := do
  let options ← readVariable vars optionsName
  return ((← options.field? key).getD .null).holds

/-- The fields settings are made from. -/
def settingsFields : List String := ["dialect", "atom_path", "atoms"]

/-- Makes settings and puts them on the shelf. -/
def newSettings (dialect atomPath atoms : Value) : Making (Settings Value) := do
  let (s, shelf) ← (← get).make dialect atomPath atoms
  set shelf
  return s

/-- Makes settings from fields: no other field is known, and the dialect is needed. -/
def settingsOf (fields : List (String × Value)) : Making Value := do
  if fields.all fun f => f.1 ∈ settingsFields then
    match fields.lookup "dialect" with
    | some dialect =>
      return .settings (← newSettings dialect ((fields.lookup "atom_path").getD .null)
        ((fields.lookup "atoms").getD .null))
    | none => throw .wrongType
  else throw .wrongType

mutual

/-- The value of an expression. -/
def eval (vars : Variables) : Expr → Making Value
  | .value v => return v
  | .fromOption key => option vars key
  | .fromVariable name => readVariable vars name
  | .newSettings fields => do settingsOf (← evalFields vars fields)

/-- The values of fields, in the order they are written. -/
def evalFields (vars : Variables) : List (String × Expr) → Making (List (String × Value))
  | [] => return []
  | (name, e) :: fields => do
    let v ← eval vars e
    let vs ← evalFields vars fields
    return (name, v) :: vs

end

mutual

/-- Runs one statement. -/
def step (vars : Variables) : Statement → Making Variables
  | .assign name e => do return setEntry vars name (← eval vars e)
  | .whenOption key body => do
    if ← optionHolds vars key then run vars body else return vars
  | .mention name => do
    let _ ← readVariable vars name
    return vars

/-- **Runs statements in order.** -/
def run (vars : Variables) : List Statement → Making Variables
  | [] => return vars
  | s :: statements => do
    let vars ← step vars s
    run vars statements

end

end Setup

end BrowserRemote
