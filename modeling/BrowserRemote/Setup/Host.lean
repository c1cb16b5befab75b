import BrowserRemote.Setup.Program

/-!
# Setup/Host — what outlives a single call: the log and the shelf

A host has the level of the log, the lines shown so far, and the shelf.  Calls that write records
run on it; a record is shown if the level at that time lets it pass.  A record that is to be shown
and has no text is lost: the log keeps why, and the call that wrote it goes on.
-/

namespace BrowserRemote

/-- The level of the log, the lines shown so far, the shelf, and why records were lost. -/
structure Host where
  level : Int
  journal : List LogLine
  shelf : Shelf
  lost : List Fault

/-- A computation on a host that may fail; what it did to the host stays done. -/
abbrev Hosted := ExceptT Fault (StateM Host)

namespace Host

/-- A host with a level, and nothing else. -/
def atLevel (level : Int) : Host := ⟨level, [], .empty, []⟩

/-- The host after one record: shown, held back by the level, or lost. -/
def told (host : Host) (r : Record) : Host :=
  if Log.passes host.level r then
    match r.line with
    | .ok line => { host with journal := host.journal ++ [line] }
    | .error fault => { host with lost := host.lost ++ [fault] }
  else host

/-- Shows one record, if the level lets it pass. -/
def log (r : Record) : Hosted Unit := modify fun host => host.told r

/-- Runs a traced computation, and shows its records. -/
def trace {α : Type} (x : Traced α) : Hosted α := do
  x.records.forM log
  x.outcome

/-- Runs a computation on the shelf. -/
def onShelf {α : Type} (x : Making α) : Hosted α := fun host =>
  match x host.shelf with
  | (outcome, shelf) => (outcome, { host with shelf })

/-- Changes the level. -/
def setLevel (level : Int) : Hosted Unit := modify fun host => { host with level }

end Host

end BrowserRemote
