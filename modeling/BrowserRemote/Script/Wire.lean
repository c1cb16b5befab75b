import BrowserRemote.Value.Basic

/-!
# Script/Wire — script arguments as they travel

On the wire an element handle is a dictionary with one well-known key, and a tuple is a list.
Lists, tuples and the values of dictionaries are converted all the way down; keys, and the
identifiers inside handles, are not.
-/

namespace BrowserRemote.Script

/-- The key under which a reference to an element holds its identifier. -/
def elementKey : String := "element-6066-11e4-a52e-4f735466cecf"

/-- A reference to the element with the given identifier. -/
def elementReference (id : Value) : Value := .dict [(.str elementKey, id)]

mutual

/-- **A value as it travels.** -/
def toWire : Value → Value
  | .element id => elementReference id
  | .list items => .list (itemsToWire items)
  | .tuple items => .list (itemsToWire items)
  | .dict entries => .dict (entriesToWire entries)
  | .null => .null
  | .bool b => .bool b
  | .int n => .int n
  | .float x => .float x
  | .str s => .str s
  | .bytes bs => .bytes bs
  | .command c => .command c
  | .settings s => .settings s

/-- Items as they travel. -/
def itemsToWire : List Value → List Value
  | [] => []
  | item :: items => toWire item :: itemsToWire items

/-- Entries as they travel, under their keys. -/
def entriesToWire : List (Value × Value) → List (Value × Value)
  | [] => []
  | (key, value) :: entries => (key, toWire value) :: entriesToWire entries

end

theorem itemsToWire_eq_map : ∀ items : List Value, itemsToWire items = items.map toWire
  | [] => rfl
  | item :: items => by rw [itemsToWire, itemsToWire_eq_map items, List.map_cons]

theorem entriesToWire_eq_map :
    ∀ entries : Dict, entriesToWire entries = entries.map fun e => (e.1, toWire e.2)
  | [] => rfl
  | (key, value) :: entries => by
    rw [entriesToWire, entriesToWire_eq_map entries, List.map_cons]

end BrowserRemote.Script
