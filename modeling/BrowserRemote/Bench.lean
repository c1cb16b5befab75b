import BrowserRemote.Encoder

/-!
# Bench — calls of every kind, one after the other

On a bench lie drafts and tables, each under a number.  A call works on a draft, builds a table
from one, or asks a table, rules or an encoder about a name.  Every call is answered, a refused one
by its fault, and the next call meets the bench as the last one left it.
-/

namespace BrowserRemote

/-- Drafts and tables, each under a number. -/
structure Bench where
  drafts : Nat → Draft
  tables : Nat → CommandTable

namespace Bench

/-- The bench before anything is drafted. -/
def empty : Bench := ⟨fun _ => .empty, fun _ => Draft.empty.build⟩

/-- The bench with a draft put under a number. -/
def putDraft (b : Bench) (place : Nat) (d : Draft) : Bench :=
  { b with drafts := fun i => if i = place then d else b.drafts i }

/-- The bench with a table put under a number. -/
def putTable (b : Bench) (place : Nat) (t : CommandTable) : Bench :=
  { b with tables := fun i => if i = place then t else b.tables i }

/-- What can be asked for: work on the draft under a number, a table built from it, and what a
table, rules, or an encoder of both says about a name. -/
inductive Call where
  | draft (place : Nat) (call : Draft.Call)
  | build (draft table : Nat)
  | supports (table : Nat) (name : Value)
  | resolve (table : Nat) (name : Value)
  | adapt (rules : Rules) (atoms : Option Repository) (name parameters : Value)
  | plan (table : Nat) (rules : Rules) (atoms : Option Repository) (name parameters : Value)
  | encode (table : Nat) (rules : Rules) (atoms : Option Repository)
    (name parameters session : Value)

/-- What a call gives when it is not refused. -/
inductive Answer where
  | drafted
  | built (t : CommandTable)
  | supported (b : Bool)
  | template (t : Template)
  | adapted (m : Dict)
  | planned (plan : Template × Dict)
  | request (r : Request)

/-- The encoder of the table under a number. -/
def encoder (b : Bench) (table : Nat) (rules : Rules) (atoms : Option Repository) : Encoder :=
  ⟨b.tables table, rules, atoms⟩

/-- **Makes one call**: its answer, with the records written on the way, and the bench it leaves. -/
def perform (files : FileTree) (b : Bench) : Call → Traced Answer × Bench
  | .draft place call =>
    let (outcome, desk) := Draft.perform call ⟨b.drafts place, []⟩
    (⟨(fun _ => .drafted) <$> outcome, desk.records⟩, b.putDraft place desk.draft)
  | .build draft table =>
    let t := (b.drafts draft).build
    (pure (.built t), b.putTable table t)
  | .supports table name =>
    (Answer.supported <$> Traced.ofExcept ((b.tables table).supports name), b)
  | .resolve table name =>
    (Answer.template <$> Traced.ofExcept ((b.tables table).resolve name), b)
  | .adapt rules atoms name parameters =>
    (Answer.adapted <$> rules.adapt files atoms name parameters, b)
  | .plan table rules atoms name parameters =>
    (Answer.planned <$> (b.encoder table rules atoms).plan files name parameters, b)
  | .encode table rules atoms name parameters session =>
    (Answer.request <$> (b.encoder table rules atoms).encode files name parameters session, b)

/-- **Makes calls one after the other**, refused ones among them: all answers, and the bench that is
left in the end. -/
def run (files : FileTree) : Bench → List Call → List (Traced Answer) × Bench
  | b, [] => ([], b)
  | b, call :: calls =>
    let (answer, next) := b.perform files call
    let (answers, last) := run files next calls
    (answer :: answers, last)

end Bench

end BrowserRemote
