import BrowserRemote.Route.Pattern
import BrowserRemote.Value.Dict
import BrowserRemote.Value.Text

/-!
# Route/Template — the method and the path of a request, with placeholders

A template keeps whatever it was given as method and path.  Only texts can be written out or
filled: a template with anything else in place of its path is found and handed on, and fails where
it would become a request.
-/

namespace BrowserRemote

/-- The method of a request, and its path with placeholders. -/
structure Template where
  method : Value
  path : Value

namespace Template

/-- A request that reads. -/
def get (path : String) : Template := ⟨.str "GET", .str path⟩

/-- A request that acts. -/
def post (path : String) : Template := ⟨.str "POST", .str path⟩

/-- A request that removes. -/
def delete (path : String) : Template := ⟨.str "DELETE", .str path⟩

/-- What a part of a template reads as: only a text reads. -/
def read : Value → Except Fault String
  | .str s => .ok s
  | _ => .error .wrongType

/-- The method and the path, apart by a space. -/
def text (t : Template) : Except Fault String := do
  let method ← read t.method
  let path ← read t.path
  return method ++ " " ++ path

/-- The pieces of the path. -/
def pieces (t : Template) : Except Fault (List Route.Piece) := do
  let path ← read t.path
  return Route.pieces path.toList

/-- The names of the placeholders, in the order of the path, repetitions kept. -/
def placeholders (t : Template) : Except Fault (List String) := do
  return (Route.slots (← t.pieces)).map String.ofList

/-- The text that fills a placeholder: that of the value under its name, `null` counting as none. -/
def argument (values : Value) (name : List Char) : Except Fault String := do
  match ← values.field? (String.ofList name) with
  | none | some .null => .error (.missingParameter (String.ofList name))
  | some v => v.text

/-- **The path with every placeholder filled** from a dictionary of values. -/
def expand (t : Template) (values : Value) : Except Fault String := do
  let filled ← Route.fill (argument values) (← t.pieces)
  return String.ofList filled

@[simp] theorem read_str (s : String) : read (.str s) = .ok s := rfl

/-- A path that is a text falls into its pieces. -/
@[simp] theorem pieces_str (method : Value) (path : String) :
    pieces ⟨method, .str path⟩ = .ok (Route.pieces path.toList) := rfl

end Template

end BrowserRemote
