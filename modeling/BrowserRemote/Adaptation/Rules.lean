import BrowserRemote.Adaptation.Basic
import BrowserRemote.CommandTable.Basic

/-!
# Adaptation/Rules — which adaptation a command gets

Rules give commands their adaptations.  A rule belongs to the command that was asked for, whatever
command's request it shares; a command without a rule keeps its parameters.
-/

namespace BrowserRemote

/-- Adaptations by command. -/
abbrev Rules := List (Command × Adaptation)

namespace Rules

/-- The rules of the W3C dialect. -/
def w3c : Rules := [
  (.findElement, .search),
  (.findElements, .search),
  (.findChildElement, .search),
  (.findChildElements, .search),
  (.getElementAttribute, .elementAttribute),
  (.getElementLocationOnceScrolledIntoView, .locationInView),
  (.getPageSource, .pageSource),
  (.getCurrentWindowPosition, .windowPosition),
  (.setCurrentWindowPosition, .moveWindow),
  (.isElementDisplayed, .elementDisplayed),
  (.submitElement, .submit)]

/-- The rules of the JSON wire dialect. -/
def jsonWire : Rules := [
  (.maximizeCurrentWindow, .inCurrentWindow),
  (.getCurrentWindowSize, .inCurrentWindow),
  (.setCurrentWindowSize, .inCurrentWindow),
  (.getCurrentWindowPosition, .inCurrentWindow),
  (.setCurrentWindowPosition, .inCurrentWindow)]

/-- The entries with every key a possible key, later ones before earlier ones of the same key. -/
def keyed : List (Value × Adaptation) → List (Value × Adaptation) →
    Except Fault (List (Value × Adaptation))
  | table, [] => .ok table
  | table, (key, adaptation) :: entries => do
    let key ← key.asKey
    if table.any (key.sameKey ·.1) then
      keyed (table.map fun e => if key.sameKey e.1 then (e.1, adaptation) else e) entries
    else keyed (table ++ [(key, adaptation)]) entries

/-- The entries with every key a command. -/
def checked : List (Value × Adaptation) → Except Fault Rules
  | [] => .ok []
  | (.command c, adaptation) :: entries => do return (c, adaptation) :: (← checked entries)
  | (key, _) :: _ => do throw (.ruleKey (← key.shown))

/-- **The rules of given entries**: every key must be a command. -/
def ofEntries (entries : List (Value × Adaptation)) : Except Fault Rules := do
  checked (← keyed [] entries)

/-- The adaptation of the command a value designates. -/
def adaptation? (rules : Rules) (name : Value) : Except Fault (Option Adaptation) := do
  match ← name.designated? with
  | some c => return rules.lookup c
  | none => return none

/-- **The parameters to send for a command**: adapted by its rule, or copied. -/
def adapt (rules : Rules) (files : FileTree) (atoms : Option Repository) (name parameters : Value) :
    Traced Dict := do
  match ← rules.adaptation? name with
  | some adaptation => adaptation.apply files atoms parameters
  | none => parameters.toDict

end Rules

end BrowserRemote
