import BrowserRemote.Dialect.Basic

/-!
# Settings/Basic — what an encoder is made from

Settings name a dialect, the directory its atoms are read from, and the atoms that come before
those.  They are told apart by the serial number of their making, so equal contents do not make
two settings the same.
-/

namespace BrowserRemote

/-- The settings of an encoder, over the values their fields are filled with. -/
structure Settings (α : Type) where
  serial : Nat
  dialect : Dialect
  /-- Where atoms are read from; the packaged atoms when absent. -/
  atomPath : Option α
  /-- Atoms by name that come before all others. -/
  atoms : List (α × α)

end BrowserRemote
