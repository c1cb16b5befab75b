import BrowserRemote.Script.Wire

/-!
# Script/Normal — values that travel as they are

A value is **wire-normal** when no tuple and no element handle is reached in it through the items
of lists and the values of dictionaries; keys do not count.
-/

namespace BrowserRemote.Script

mutual

/-- **No tuple and no handle is reached in the value.** -/
def WireNormal : Value → Prop
  | .tuple _ => False
  | .element _ => False
  | .list items => ItemsNormal items
  | .dict entries => EntriesNormal entries
  | .null | .bool _ | .int _ | .float _ | .str _ | .bytes _ | .command _ | .settings _ => True

/-- All items are wire-normal. -/
def ItemsNormal : List Value → Prop
  | [] => True
  | item :: items => WireNormal item ∧ ItemsNormal items

/-- The values of all entries are wire-normal. -/
def EntriesNormal : List (Value × Value) → Prop
  | [] => True
  | (_, value) :: entries => WireNormal value ∧ EntriesNormal entries

end

mutual

/-- The identifiers of the handles reached in a value, the value itself included. -/
def reachedIds : Value → List Value
  | .element id => [id]
  | .list items | .tuple items => reachedInItems items
  | .dict entries => reachedInEntries entries
  | .null | .bool _ | .int _ | .float _ | .str _ | .bytes _ | .command _ | .settings _ => []

/-- The identifiers of the handles reached in items. -/
def reachedInItems : List Value → List Value
  | [] => []
  | item :: items => reachedIds item ++ reachedInItems items

/-- The identifiers of the handles reached in the values of entries. -/
def reachedInEntries : List (Value × Value) → List Value
  | [] => []
  | (_, value) :: entries => reachedIds value ++ reachedInEntries entries

end

/-- Items are normal when each of them is. -/
theorem itemsNormal_iff : ∀ items : List Value, ItemsNormal items ↔ ∀ v ∈ items, WireNormal v
  | [] => by simp [ItemsNormal]
  | item :: items => by rw [ItemsNormal, itemsNormal_iff items, List.forall_mem_cons]

/-- Entries are normal when the value of each of them is. -/
theorem entriesNormal_iff :
    ∀ entries : Dict, EntriesNormal entries ↔ ∀ e ∈ entries, WireNormal e.2
  | [] => by simp [EntriesNormal]
  | (key, value) :: entries => by
    rw [EntriesNormal, entriesNormal_iff entries, List.forall_mem_cons]

end BrowserRemote.Script
