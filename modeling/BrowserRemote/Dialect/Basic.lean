/-!
# Dialect/Basic — the two dialects commands are written in
-/

namespace BrowserRemote

/-- The dialects: the W3C one and the JSON wire one that came before it. -/
inductive Dialect where
  | w3c
  | jsonWire
deriving DecidableEq, Repr

namespace Dialect

/-- The key a dialect is configured under. -/
def key : Dialect → String
  | .w3c => "W3C"
  | .jsonWire => "JSONWIRE"

/-- The dialect of a key. -/
def ofKey? (s : String) : Option Dialect :=
  if s = "W3C" then some .w3c else if s = "JSONWIRE" then some .jsonWire else none

theorem ofKey?_eq_some_iff {s : String} {d : Dialect} : ofKey? s = some d ↔ s = d.key := by
  cases d <;> simp only [ofKey?, key] <;> split <;> simp_all

theorem key_inj {d e : Dialect} (h : d.key = e.key) : d = e := by
  simpa [ofKey?_eq_some_iff.2 rfl] using congrArg ofKey? h

end Dialect

end BrowserRemote
