import BrowserRemote.Setup.Program
import BrowserRemote.Stateful

/-!
# Settings/History — a shelf over a run of calls

A shelf outlives the calls that fail: the next call meets it as the last one left it.  Settings are
**the latest** under a key if one of the calls made them under that key, and after it the shelf was
not cleared and nothing else was made under the key.
-/

namespace BrowserRemote.Shelf

/-! ## What settings are made from -/

/-- The atoms a value gives: none if it is `null`. -/
def atomsOf : Value → Except Fault (List (Value × Value))
  | .null => .ok []
  | v => v.toDict

theorem atomsOf_eq_error_iff {atoms : Value} {fault : Fault} :
    atomsOf atoms = .error fault ↔ atoms ≠ .null ∧ atoms.toDict = .error fault := by
  unfold atomsOf
  split
  · exact ⟨nofun, fun h => absurd rfl h.1⟩
  · next hne => exact ⟨fun h => ⟨hne, h⟩, fun h => h.2⟩

/-- The shelf with settings put in place of those of their dialect. -/
def put (shelf : Shelf) (s : Settings Value) : Shelf :=
  ⟨setEntry shelf.entries s.dialect s, shelf.made + 1⟩

/-- Settings are made by reading the dialect, then the atoms, and putting both together. -/
theorem make_eq (shelf : Shelf) (dialect atomPath atoms : Value) :
    shelf.make dialect atomPath atoms = do
      let key ← Dialect.keyOf dialect
      let d ← dialectOf key
      let entries ← atomsOf atoms
      let s : Settings Value := ⟨shelf.made, d, atomPath.present?, entries⟩
      return (s, shelf.put s) := by
  cases atoms <;> rfl

/-! ## Calls -/

/-- A call that is made on a shelf. -/
inductive Call where
  | make (dialect atomPath atoms : Value)
  | find (dialect : Value)
  | clear

/-- **Makes one call**: the settings it answers with, if it answers with any. -/
def perform : Call → Making (Option (Settings Value))
  | .make dialect atomPath atoms => do return some (← Setup.newSettings dialect atomPath atoms)
  | .find dialect => do return some (← (← get).find dialect)
  | .clear => do
    modify clear
    return none

section Making

variable {dialect atomPath atoms : Value} {shelf : Shelf}

theorem newSettings_of_ok {s : Settings Value} {shelf' : Shelf}
    (h : shelf.make dialect atomPath atoms = .ok (s, shelf')) :
    Setup.newSettings dialect atomPath atoms shelf = (.ok s, shelf') := by
  rw [Setup.newSettings, Stateful.get_bind, Stateful.lift_bind, h]
  rfl

theorem newSettings_of_error {fault : Fault}
    (h : shelf.make dialect atomPath atoms = .error fault) :
    Setup.newSettings dialect atomPath atoms shelf = (.error fault, shelf) := by
  rw [Setup.newSettings, Stateful.get_bind, Stateful.lift_bind, h]

theorem perform_make_of_ok {s : Settings Value} {shelf' : Shelf}
    (h : shelf.make dialect atomPath atoms = .ok (s, shelf')) :
    perform (.make dialect atomPath atoms) shelf = (.ok (some s), shelf') :=
  Stateful.bind_of_ok (newSettings_of_ok h) _

theorem perform_make_of_error {fault : Fault}
    (h : shelf.make dialect atomPath atoms = .error fault) :
    perform (.make dialect atomPath atoms) shelf = (.error fault, shelf) :=
  Stateful.bind_of_error (newSettings_of_error h) _

end Making

theorem perform_find (dialect : Value) (shelf : Shelf) :
    perform (.find dialect) shelf = ((shelf.find dialect).map some, shelf) := by
  change ((shelf.find dialect : Making (Settings Value)) >>= fun s => (return some s)) shelf = _
  rcases shelf.find dialect with fault | s <;> rfl

/-- The shelf as a call leaves it, whether it fails or not. -/
def attempt (shelf : Shelf) (call : Call) : Shelf := (perform call shelf).2

/-- **The shelf after calls**, some of them perhaps failing. -/
def attemptAll (shelf : Shelf) (calls : List Call) : Shelf := calls.foldl attempt shelf

@[simp] theorem attemptAll_nil (shelf : Shelf) : shelf.attemptAll [] = shelf := rfl

/-- Runs follow one another. -/
theorem attemptAll_append (shelf : Shelf) (calls more : List Call) :
    shelf.attemptAll (calls ++ more) = (shelf.attemptAll calls).attemptAll more :=
  List.foldl_append

/-- A run with one call more. -/
theorem attemptAll_concat (shelf : Shelf) (calls : List Call) (call : Call) :
    shelf.attemptAll (calls ++ [call]) = (shelf.attemptAll calls).attempt call :=
  attemptAll_append shelf calls [call]

/-! ## What stands on a shelf -/

/-- The settings that stand under a key. -/
def held? (shelf : Shelf) (key : String) : Option (Settings Value) :=
  (Dialect.ofKey? key).bind fun d => shelf.entries.lookup d

theorem find_str (shelf : Shelf) (name : String) :
    shelf.find (.str name) = match shelf.held? (Dialect.normalKey name) with
      | some s => .ok s
      | none => .error (.noSettings (Dialect.normalKey name)) := rfl

/-- **A shelf is tidy**: settings stand under their own dialect, and each dialect at most once. -/
structure Tidy (shelf : Shelf) : Prop where
  nodup : (shelf.entries.map Prod.fst).Nodup
  own : ∀ entry ∈ shelf.entries, entry.2.dialect = entry.1

/-! ## What was made on the way -/

/-- On a shelf, the call succeeds in making settings under a key. -/
def Makes (shelf : Shelf) (call : Call) (key : String) (s : Settings Value) : Prop :=
  ∃ dialect atomPath atoms, call = .make dialect atomPath atoms
    ∧ Dialect.keyOf dialect = .ok key ∧ (perform call shelf).1 = .ok (some s)

/-- On a shelf, the call changes what stands under a key: it clears the shelf, or succeeds in making
settings under the key. -/
def Changes (shelf : Shelf) (call : Call) (key : String) : Prop :=
  call = .clear ∨ ∃ s, shelf.Makes call key s

/-- Something is so about the call at a place of a run, and the shelf that it meets there; the run
starts with an empty shelf. -/
def HoldsAt (calls : List Call) (i : Nat) (what : Shelf → Call → Prop) : Prop :=
  ∃ call, calls[i]? = some call ∧ what (empty.attemptAll (calls.take i)) call

/-- The call at a place of a run succeeds in making settings under a key. -/
def MakesAt (calls : List Call) (i : Nat) (key : String) (s : Settings Value) : Prop :=
  HoldsAt calls i fun shelf call => shelf.Makes call key s

/-- **The latest settings of a run under a key**: those that a call made under it, if no call behind
it clears the shelf or makes others under the key. -/
def Latest (calls : List Call) (key : String) (s : Settings Value) : Prop :=
  ∃ i, MakesAt calls i key s
    ∧ ∀ j, i < j → ¬ HoldsAt calls j fun shelf call => shelf.Changes call key

end BrowserRemote.Shelf
