import BrowserRemote.Css.Selector
import BrowserRemote.Script.Call

/-!
# Adaptation/Basic — how parameters change for a dialect

An adaptation makes the parameters that are sent from those that were given.  A search keeps all
its parameters but its strategy and value; a window command gets the current window if it names
none; the other adaptations put the parameters of a script call in place of those given.
-/

namespace BrowserRemote

/-- The ways parameters are adapted. -/
inductive Adaptation where
  | search
  | elementAttribute
  | locationInView
  | pageSource
  | windowPosition
  | moveWindow
  | elementDisplayed
  | submit
  | inCurrentWindow
deriving DecidableEq, Repr

namespace Adaptation

/-! ## The scripts -/

/-- The script that gives the markup of the page. -/
def pageSourceScript : String :=
  "var source = document.documentElement.outerHTML; \n"
    ++ "if (!source) \x7b source = new XMLSerializer().serializeToString(document); \x7d\n"
    ++ "return source;"

/-- The script that tells where the window is. -/
def windowPositionScript : String := "return \x7bx: window.screenX, y: window.screenY\x7d"

/-- The script that moves the window. -/
def moveWindowScript : String :=
  "window.screenX = arguments[0]; window.screenY = arguments[1]"

/-- The script that tells where in view an element is. -/
def locationInViewScript : String := "return arguments[0].getBoundingClientRect()"

/-- The script that submits the form an element is in. -/
def submitScript : String :=
  "var form = arguments[0];\n"
    ++ "while (form.nodeName != \"FORM\" && form.parentNode) \x7b\n"
    ++ "  form = form.parentNode;\n"
    ++ "\x7d\n"
    ++ "if (form == null) \x7b throw Error('Unable to find containing form element'); \x7d\n"
    ++ "var e = form.ownerDocument.createEvent('Event');\n"
    ++ "e.initEvent('submit', true, true);\n"
    ++ "if (form.dispatchEvent(e)) \x7b form.submit() \x7d\n"

/-- The handle that stands for the window in front. -/
def currentWindow : String := "current"

/-! ## The adaptations -/

/-- The value of a parameter, `null` if there is none. -/
def argument (parameters : Value) (name : String) : Except Fault Value :=
  return (← parameters.field? name).getD .null

/-- A search in a dialect without the older strategies. -/
def searched (parameters : Value) : Except Fault Dict := do
  let kept ← parameters.toDict
  let strategy ← argument parameters "using"
  match Css.Legacy.ofValue? strategy, (← argument parameters "value").present? with
  | some _, some value => do
    let (strategy, value) ← Css.bySelector strategy value
    return (Dict.setField kept "using" strategy).setField "value" value
  | _, _ => return kept

/-- A window command that names the window in front if it names none. -/
def placed (parameters : Value) : Except Fault Dict := do
  let kept ← parameters.toDict
  return kept.setFieldIfAbsent "windowHandle" (.str currentWindow)

/-- The arguments of a script that is about an element. -/
def elementArgument (parameters : Value) : Except Fault Value := do
  return Script.elementReference (← argument parameters "id")

/-- **What an adaptation makes of parameters**, with a way of finding atoms. -/
def apply (files : FileTree) (atoms : Option Repository) (parameters : Value) :
    Adaptation → Traced Dict
  | .search => searched parameters
  | .elementAttribute => do
    let element ← elementArgument parameters
    let name ← argument parameters "name"
    let call ← Script.callAtom files atoms (.str Atom.getAttribute) [element, name]
    return call.parameters
  | .locationInView => do
    let element ← elementArgument parameters
    return (Script.call locationInViewScript [element]).parameters
  | .pageSource => return (Script.call pageSourceScript []).parameters
  | .windowPosition => return (Script.call windowPositionScript []).parameters
  | .moveWindow => do
    let x ← argument parameters "x"
    let y ← argument parameters "y"
    return (Script.call moveWindowScript [x, y]).parameters
  | .elementDisplayed => do
    let element ← elementArgument parameters
    let call ← Script.callAtom files atoms (.str Atom.isDisplayed) [element]
    return call.parameters
  | .submit => do
    let element ← elementArgument parameters
    return (Script.call submitScript [element]).parameters
  | .inCurrentWindow => placed parameters

end Adaptation

end BrowserRemote
