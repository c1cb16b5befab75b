import BrowserRemote.Bench
import Mathlib.Data.List.Forall2

/-!
# Proofs/Bench/Interchange — a command and its name are interchangeable

    calls  ~  calls'          one step:   the same answer, the same records, the same bench
      ╲        ╱
       one run               a run:      by induction on the calls

A name is only ever read in two ways: for the command it designates, and for the label it is called
by.  A command and its name agree in both (`Value.Interchangeable.designated?_eq`,
`Value.Interchangeable.label_eq`), so no call can tell them apart.
-/

namespace BrowserRemote

/-- **Values that name the same**: equal ones, and a command and its name, either way round. -/
inductive Value.Interchangeable : Value → Value → Prop
  | same (v : Value) : Interchangeable v v
  | named (c : Command) : Interchangeable (.command c) (.str c.name)
  | meant (c : Command) : Interchangeable (.str c.name) (.command c)

namespace Value.Interchangeable

variable {name name' target target' : Value}

theorem designated?_eq (h : name.Interchangeable name') : name.designated? = name'.designated? := by
  cases h with
  | same v => rfl
  | named c => exact (designated?_name c).symm
  | meant c => exact designated?_name c

theorem label_eq (h : name.Interchangeable name') : name.label = name'.label := by
  cases h with
  | same v => rfl
  | named c => exact (label_name c).symm
  | meant c => exact label_name c

/-! ## Drafting -/

theorem required_eq (h : name.Interchangeable name') :
    Draft.required name = Draft.required name' := by
  rw [Draft.required, Draft.required, h.designated?_eq, h.label_eq]

theorem definition_eq (h : name.Interchangeable name') (d : Draft) (method path : Value) :
    d.definition name method path = d.definition name' method path := by
  rw [Draft.definition, Draft.definition, h.required_eq, h.label_eq]

theorem aliasing_eq (h : name.Interchangeable name') (htarget : target.Interchangeable target')
    (d : Draft) : d.aliasing name target = d.aliasing name' target' := by
  rw [Draft.aliasing, Draft.aliasing, h.required_eq, h.label_eq, htarget.required_eq,
    htarget.label_eq]

/-! ## Asking -/

theorem supports_eq (h : name.Interchangeable name') (t : CommandTable) :
    t.supports name = t.supports name' := by
  rw [CommandTable.supports, CommandTable.supports, h.designated?_eq]

theorem resolve_eq (h : name.Interchangeable name') (t : CommandTable) :
    t.resolve name = t.resolve name' := by
  have hfails : (CommandTable.unsupported name : Except Fault Template)
      = CommandTable.unsupported name' := by
    rw [CommandTable.unsupported, CommandTable.unsupported, h.label_eq]
  rw [CommandTable.resolve, CommandTable.resolve, h.designated?_eq, hfails]

theorem adapt_eq (h : name.Interchangeable name') (rules : Rules) (files : FileTree)
    (atoms : Option Repository) (parameters : Value) :
    rules.adapt files atoms name parameters = rules.adapt files atoms name' parameters := by
  have hrule : rules.adaptation? name = rules.adaptation? name' := by
    rw [Rules.adaptation?, Rules.adaptation?, h.designated?_eq]
  rw [Rules.adapt, Rules.adapt, hrule]

theorem plan_eq (h : name.Interchangeable name') (e : Encoder) (files : FileTree)
    (parameters : Value) : e.plan files name parameters = e.plan files name' parameters := by
  rw [Encoder.plan, Encoder.plan, h.resolve_eq, h.adapt_eq, h.label_eq]

theorem encode_eq (h : name.Interchangeable name') (e : Encoder) (files : FileTree)
    (parameters session : Value) :
    e.encode files name parameters session = e.encode files name' parameters session := by
  rw [Encoder.encode, Encoder.encode, h.plan_eq]

end Value.Interchangeable

/-! ## Calls that name the same -/

/-- Drafting calls that differ at most in how their commands are named. -/
inductive Draft.Call.Alike : Draft.Call → Draft.Call → Prop
  | define {name name' : Value} (h : name.Interchangeable name') (method path : Value) :
      Alike (.define name method path) (.define name' method path)
  | addAlias {name name' target target' : Value} (h : name.Interchangeable name')
      (htarget : target.Interchangeable target') :
      Alike (.addAlias name target) (.addAlias name' target')

/-- Drafting calls that name the same do the same to a desk. -/
theorem Draft.Call.Alike.perform_eq {call call' : Draft.Call} (h : call.Alike call') (desk : Desk) :
    Draft.perform call desk = Draft.perform call' desk := by
  cases h with
  | define h method path =>
    rw [Draft.perform, Draft.perform, Draft.define, Draft.define, Stateful.get_bind,
      Stateful.get_bind, h.definition_eq]
  | addAlias h htarget =>
    rw [Draft.perform, Draft.perform, Draft.addAlias, Draft.addAlias, Stateful.get_bind,
      Stateful.get_bind, h.aliasing_eq htarget]

namespace Bench

/-- **Calls that differ at most in how their commands are named.** -/
inductive Call.Alike : Call → Call → Prop
  | draft (place : Nat) {call call' : Draft.Call} (h : call.Alike call') :
      Alike (.draft place call) (.draft place call')
  | build (draft table : Nat) : Alike (.build draft table) (.build draft table)
  | supports (table : Nat) {name name' : Value} (h : name.Interchangeable name') :
      Alike (.supports table name) (.supports table name')
  | resolve (table : Nat) {name name' : Value} (h : name.Interchangeable name') :
      Alike (.resolve table name) (.resolve table name')
  | adapt (rules : Rules) (atoms : Option Repository) {name name' : Value}
      (h : name.Interchangeable name') (parameters : Value) :
      Alike (.adapt rules atoms name parameters) (.adapt rules atoms name' parameters)
  | plan (table : Nat) (rules : Rules) (atoms : Option Repository) {name name' : Value}
      (h : name.Interchangeable name') (parameters : Value) :
      Alike (.plan table rules atoms name parameters) (.plan table rules atoms name' parameters)
  | encode (table : Nat) (rules : Rules) (atoms : Option Repository) {name name' : Value}
      (h : name.Interchangeable name') (parameters session : Value) :
      Alike (.encode table rules atoms name parameters session)
        (.encode table rules atoms name' parameters session)

variable {files : FileTree}

/-- **One call**: those that name the same get the same answer and leave the same bench. -/
theorem Call.Alike.perform_eq {call call' : Call} (h : call.Alike call') (b : Bench) :
    b.perform files call = b.perform files call' := by
  cases h with
  | draft place h => rw [perform, perform, h.perform_eq]
  | build draft table => rfl
  | supports table h => rw [perform, perform, h.supports_eq]
  | resolve table h => rw [perform, perform, h.resolve_eq]
  | adapt rules atoms h parameters => rw [perform, perform, h.adapt_eq]
  | plan table rules atoms h parameters => rw [perform, perform, h.plan_eq]
  | encode table rules atoms h parameters session => rw [perform, perform, h.encode_eq]

/-- **A command and its name are interchangeable in every run**: naming commands the other way, in
any of the calls, changes no answer, no fault, no record and nothing on the bench. -/
theorem run_names_interchangeable {calls calls' : List Call}
    (h : List.Forall₂ Call.Alike calls calls') (b : Bench) :
    b.run files calls = b.run files calls' := by
  induction h generalizing b with
  | nil => rfl
  | @cons call call' calls calls' hcall _ ih =>
    rw [run, run, hcall.perform_eq]
    exact congrArg (fun rest => ((b.perform files call').1 :: rest.1, rest.2))
      (ih (b.perform files call').2)

/-- A command defined by itself is defined by its name as well, and a second definition is refused
whichever way it is named. -/
theorem quit_names_interchangeable :
    let calls : List Call := [
      .draft 0 (.define (.command .quit) (.str "DELETE") (.str "/quit")),
      .draft 0 (.define (.str "quit") (.str "GET") (.str "/other")),
      .build 0 0,
      .resolve 0 (.command .quit)]
    let calls' : List Call := [
      .draft 0 (.define (.str "quit") (.str "DELETE") (.str "/quit")),
      .draft 0 (.define (.command .quit) (.str "GET") (.str "/other")),
      .build 0 0,
      .resolve 0 (.str "quit")]
    List.Forall₂ Call.Alike calls calls' ∧ empty.run .empty calls = empty.run .empty calls'
      ∧ (empty.run .empty calls).1.map Traced.outcome = [
        .ok .drafted,
        .error (.alreadyDefined "quit"),
        .ok (.built ⟨[(.quit, .delete "/quit")], []⟩),
        .ok (.template (.delete "/quit"))] := by
  intro calls calls'
  have halike : List.Forall₂ Call.Alike calls calls' :=
    .cons (.draft 0 (.define (.named .quit) _ _)) <|
      .cons (.draft 0 (.define (.meant .quit) _ _)) <|
      .cons (.build 0 0) <| .cons (.resolve 0 (.named .quit)) .nil
  exact ⟨halike, run_names_interchangeable halike empty, rfl⟩

end Bench

end BrowserRemote
