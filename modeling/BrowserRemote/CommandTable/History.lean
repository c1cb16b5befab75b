import BrowserRemote.CommandTable.Draft

/-!
# CommandTable/History — drafts after any calls

A desk survives the calls that are refused: the next call meets it as the last one left it.  A
draft is **consistent** when its two tables are apart, every alias leads to a template, and every
template has one of the three methods.  Calls **fit together** when their names designate commands,
each another one, and every alias comes behind the definition of its target.  In a workshop the desk
is also built from on the way: each table that is built stays with those built before it, while
drafting goes on.
-/

namespace BrowserRemote

namespace Desk

/-- The desk before anything is drafted. -/
def empty : Desk := ⟨.empty, []⟩

/-- The desk as a call leaves it, whether it is refused or not. -/
def attempt (desk : Desk) (call : Draft.Call) : Desk := (Draft.perform call desk).2

/-- **The desk after calls**, some of them perhaps refused. -/
def attemptAll (desk : Desk) (calls : List Draft.Call) : Desk := calls.foldl attempt desk

@[simp] theorem attemptAll_nil (desk : Desk) : desk.attemptAll [] = desk := rfl

@[simp] theorem attemptAll_cons (desk : Desk) (call : Draft.Call) (calls : List Draft.Call) :
    desk.attemptAll (call :: calls) = (desk.attempt call).attemptAll calls := rfl

end Desk

namespace Draft

/-- **The tables of a draft fit together.** -/
structure Consistent (d : Draft) : Prop where
  /-- No command has both a template and an alias. -/
  apart : ∀ c t e, (c, t) ∈ d.templates → (c, e) ∉ d.aliases
  /-- Every alias leads to a template. -/
  led : ∀ c e, (c, e) ∈ d.aliases → ∃ t, (e, t) ∈ d.templates
  /-- Every template has a method. -/
  methods : ∀ c t, (c, t) ∈ d.templates → ∃ m ∈ Draft.methods, t.method = .str m

theorem consistent_empty : Consistent empty :=
  ⟨by simp [empty], by simp [empty], by simp [empty]⟩

/-! ## What calls ask for -/

namespace Call

/-- The name of the command that a call is to add. -/
def name : Call → Value
  | .define name _ _ => name
  | .addAlias name _ => name

/-- The entry that a definition asks for. -/
def definition? : Call → Option (Command × Template)
  | .define name method path => match name.designated? with
    | .ok (some c) => some (c, ⟨method, path⟩)
    | _ => none
  | .addAlias _ _ => none

/-- The entry that an alias asks for. -/
def alias? : Call → Option (Command × Command)
  | .define _ _ _ => none
  | .addAlias name target => match name.designated?, target.designated? with
    | .ok (some c), .ok (some e) => some (c, e)
    | _, _ => none

end Call

/-- **The draft that calls ask for**: their definitions, and their aliases, in their order. -/
def asked (calls : List Call) : Draft :=
  ⟨calls.filterMap Call.definition?, calls.filterMap Call.alias?⟩

/-- One of the calls defines the command. -/
def Defines (calls : List Call) (c : Command) : Prop :=
  ∃ name method path, .define name method path ∈ calls ∧ name.designated? = .ok (some c)

/-- **Every alias comes behind the definition of its target.** -/
def TargetsFirst (calls : List Call) : Prop :=
  ∀ before name target after, calls = before ++ .addAlias name target :: after →
    ∃ e, target.designated? = .ok (some e) ∧ Defines before e

/-- **Calls fit together.** -/
structure Fit (calls : List Call) : Prop where
  /-- Every name designates a command. -/
  named : ∀ call ∈ calls, ∃ c, call.name.designated? = .ok (some c)
  /-- Every definition has a method. -/
  methods : ∀ name method path, .define name method path ∈ calls →
    ∃ m ∈ Draft.methods, method = .str m
  /-- No two calls name the same command. -/
  distinct : calls.Pairwise fun call later => call.name.designated? ≠ later.name.designated?
  /-- Every target designates a command, which a call before the alias defines. -/
  targetsFirst : TargetsFirst calls

end Draft

/-! ## Tables built on the way -/

/-- A desk, and the tables built from it so far, the first one first. -/
structure Workshop where
  desk : Desk
  built : List CommandTable

namespace Workshop

/-- A step of drafting: a call, or the building of the table as it stands. -/
inductive Step where
  | call (call : Draft.Call)
  | build

/-- The workshop before anything is drafted. -/
def empty : Workshop := ⟨.empty, []⟩

/-- The workshop as a step leaves it. -/
def step (w : Workshop) : Step → Workshop
  | .call call => ⟨w.desk.attempt call, w.built⟩
  | .build => ⟨w.desk, w.built ++ [w.desk.draft.build]⟩

/-- **The workshop after steps**, some of their calls perhaps refused. -/
def run (w : Workshop) (steps : List Step) : Workshop := steps.foldl step w

@[simp] theorem run_nil (w : Workshop) : w.run [] = w := rfl

@[simp] theorem run_cons (w : Workshop) (s : Step) (steps : List Step) :
    w.run (s :: steps) = (w.step s).run steps := rfl

/-- Runs follow one another. -/
theorem run_append (w : Workshop) (steps more : List Step) :
    w.run (steps ++ more) = (w.run steps).run more :=
  List.foldl_append

end Workshop

end BrowserRemote
