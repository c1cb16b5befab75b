import BrowserRemote.Command
import BrowserRemote.Settings.Basic
import BrowserRemote.Value.Floating

/-!
# Value/Basic — the values commands are named by and filled with

Parameters, names, script arguments and atom sources are **values**: JSON data together with
byte strings, tuples, dictionaries with any keys, element handles, commands and settings.
-/

namespace BrowserRemote

/-- A value a client can hand over. -/
inductive Value where
  | null
  | bool (b : Bool)
  | int (n : Int)
  | float (x : Floating)
  | str (s : String)
  | bytes (bs : List UInt8)
  | list (items : List Value)
  | tuple (items : List Value)
  /-- Entries in the order they were added; keys are pairwise different. -/
  | dict (entries : List (Value × Value))
  /-- A handle on an element of a page, by its identifier. -/
  | element (id : Value)
  | command (c : Command)
  | settings (s : Settings Value)

/-- The entries of a dictionary, in the order they were added. -/
abbrev Dict := List (Value × Value)

namespace Value

/-- Empty containers, zeros, `false` and `null` do not hold; everything else does. -/
def holds : Value → Bool
  | .null => false
  | .bool b => b
  | .int n => n != 0
  | .float x => !x.isZero
  | .str s => s != ""
  | .bytes bs => !bs.isEmpty
  | .list items => !items.isEmpty
  | .tuple items => !items.isEmpty
  | .dict entries => !entries.isEmpty
  | .element _ => true
  | .command _ => true
  | .settings _ => true

/-- A number of either kind. -/
inductive Number where
  | whole (n : Int)
  | floating (x : Floating)

/-- Equality of numbers, exact across the kinds. -/
def Number.same : Number → Number → Bool
  | .whole m, .whole n => m == n
  | .whole n, .floating x | .floating x, .whole n => x.isInt n
  | .floating x, .floating y => x.same y

/-- The number a value is: truth values count as 1 and 0. -/
def number? : Value → Option Number
  | .bool b => some (.whole b.toInt)
  | .int n => some (.whole n)
  | .float x => some (.floating x)
  | _ => none

/-- `null` stands for an absent value. -/
def present? : Value → Option Value
  | .null => none
  | v => some v

theorem present?_of_ne_null {v : Value} (h : v ≠ .null) : v.present? = some v := by
  unfold present?
  split
  · exact absurd rfl h
  · rfl

theorem of_present?_eq_some {v w : Value} (h : v.present? = some w) : v = w ∧ w ≠ .null := by
  unfold present? at h
  split at h
  · cases h
  · next hne => exact ⟨Option.some.inj h, fun hw => hne ((Option.some.inj h).trans hw)⟩

end Value

end BrowserRemote
