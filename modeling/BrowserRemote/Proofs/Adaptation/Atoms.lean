import BrowserRemote.Adaptation.Rules
import BrowserRemote.Proofs.Value.Faults

/-!
# Proofs/Adaptation/Atoms — an adaptation asks for one atom, or for none

    elementAttribute ──▸ getAttribute.js
    elementDisplayed ──▸ isDisplayed.js
    all others       ──▸ none

A way of finding atoms matters to an adaptation by its answer for that one atom (`apply_agree`), and
an adaptation fails when a value is to blame or when that one atom is not to be had
(`apply_failsOnly`).
-/

namespace BrowserRemote

open Fault (BlamesValue)

variable {log : Bool} {files files' : FileTree} {atoms atoms' : Option Repository}

namespace Script

/-- Ways of finding atoms agree on a name. -/
def AnswerAlike (log : Bool) (files files' : FileTree) (atoms atoms' : Option Repository)
    (atom : String) : Prop :=
  Traced.Agree log (sourceFrom files atoms (.str atom)) (sourceFrom files' atoms' (.str atom))

/-- **The call of an atom is made of the answer for its name.** -/
theorem callAtom_agree {atom : String} (h : AnswerAlike log files files' atoms atoms' atom)
    (args : List Value) : Traced.Agree log (callAtom files atoms (.str atom) args)
      (callAtom files' atoms' (.str atom) args) :=
  .bind (h.tryCatch (wrapFailure (.str atom))) fun source =>
    .bind (.refl (Traced.ofExcept source.text)) fun _ => .refl _

/-- The call of an atom fails when the atom is not to be had, or has no text. -/
theorem callAtom_failsOnly (name : Value) (args : List Value) : FailsOnly
    (fun fault => fault.BlamesValue ∨ (atomSource files atoms name).outcome = .error fault)
    (callAtom files atoms name args).outcome :=
  .outcome_bind (fun _ h => Or.inr h) fun source =>
    .outcome_bind (x := Traced.ofExcept source.text) (source.text_failsOnly.mono fun _ => Or.inl)
      fun _ => .ok _

end Script

namespace Adaptation

/-- **The atom an adaptation asks for**, if it asks for one. -/
def atom? : Adaptation → Option String
  | .elementAttribute => some Atom.getAttribute
  | .elementDisplayed => some Atom.isDisplayed
  | .search | .locationInView | .pageSource | .windowPosition | .moveWindow | .submit
  | .inCurrentWindow => none

/-- **Only the answer for its own atom matters to an adaptation.** -/
theorem apply_agree {a : Adaptation}
    (h : ∀ atom, a.atom? = some atom → Script.AnswerAlike log files files' atoms atoms' atom)
    (parameters : Value) :
    Traced.Agree log (a.apply files atoms parameters) (a.apply files' atoms' parameters) := by
  cases a with
  | elementAttribute =>
    have hcall := Script.callAtom_agree (h Atom.getAttribute rfl)
    exact .bind (.refl _) fun element => .bind (.refl _) fun name =>
      .bind (hcall [element, name]) fun _ => .refl _
  | elementDisplayed =>
    have hcall := Script.callAtom_agree (h Atom.isDisplayed rfl)
    exact .bind (.refl _) fun element => .bind (hcall [element]) fun _ => .refl _
  | search | locationInView | pageSource | windowPosition | moveWindow | submit
  | inCurrentWindow => exact .refl _

/-! ## What can go wrong -/

theorem argument_failsOnly (parameters : Value) (name : String) :
    FailsOnly BlamesValue (argument parameters name) :=
  .bind (parameters.field?_failsOnly name) fun _ => .ok _

theorem elementArgument_failsOnly (parameters : Value) :
    FailsOnly BlamesValue (elementArgument parameters) :=
  .bind (argument_failsOnly parameters "id") fun _ => .ok _

theorem searched_failsOnly (parameters : Value) : FailsOnly BlamesValue (searched parameters) := by
  refine .bind parameters.toDict_failsOnly fun kept => ?_
  refine .bind (argument_failsOnly parameters "using") fun strategy => ?_
  refine .bind (argument_failsOnly parameters "value") fun value => ?_
  split
  · next value _ _ => exact .bind (Css.bySelector_failsOnly strategy value) fun _ => .ok _
  · exact .ok kept

theorem placed_failsOnly (parameters : Value) : FailsOnly BlamesValue (placed parameters) :=
  .bind parameters.toDict_failsOnly fun _ => .ok _

/-- The atom that is asked for is not to be had: the fault is that of its source. -/
def LacksAtom (files : FileTree) (atoms : Option Repository) (asked : Option String)
    (fault : Fault) : Prop :=
  ∃ atom, asked = some atom ∧ (Script.atomSource files atoms (.str atom)).outcome = .error fault

/-- The call of the atom that is asked for fails when that atom is not to be had, or has no text. -/
theorem callAsked_failsOnly {asked : Option String} {atom : String} (h : asked = some atom)
    (args : List Value) :
    FailsOnly (fun fault => fault.BlamesValue ∨ LacksAtom files atoms asked fault)
      (Script.callAtom files atoms (.str atom) args).outcome :=
  (Script.callAtom_failsOnly (.str atom) args).mono fun _ hfault =>
    hfault.imp_right fun hsource => ⟨atom, h, hsource⟩

/-- **An adaptation fails** when a value is to blame or when its atom is not to be had. -/
theorem apply_failsOnly (a : Adaptation) (parameters : Value) : FailsOnly
    (fun fault => fault.BlamesValue ∨ LacksAtom files atoms a.atom? fault)
    (a.apply files atoms parameters).outcome := by
  have hargument (name : String) : FailsOnly
      (fun fault => fault.BlamesValue ∨ LacksAtom files atoms a.atom? fault)
      (Traced.ofExcept (argument parameters name)).outcome :=
    (argument_failsOnly parameters name).mono fun _ => Or.inl
  have helement : FailsOnly
      (fun fault => fault.BlamesValue ∨ LacksAtom files atoms a.atom? fault)
      (Traced.ofExcept (elementArgument parameters)).outcome :=
    (elementArgument_failsOnly parameters).mono fun _ => Or.inl
  cases a with
  | search => exact (searched_failsOnly parameters).mono fun _ => Or.inl
  | inCurrentWindow => exact (placed_failsOnly parameters).mono fun _ => Or.inl
  | pageSource | windowPosition => exact .ok _
  | locationInView | submit => exact .outcome_bind helement fun _ => .ok _
  | moveWindow =>
    exact .outcome_bind (hargument "x") fun _ => .outcome_bind (hargument "y") fun _ => .ok _
  | elementAttribute =>
    refine .outcome_bind helement fun element => .outcome_bind (hargument "name") fun name => ?_
    exact .outcome_bind (callAsked_failsOnly rfl [element, name]) fun _ => .ok _
  | elementDisplayed =>
    refine .outcome_bind helement fun element => ?_
    exact .outcome_bind (callAsked_failsOnly rfl [element]) fun _ => .ok _

end Adaptation

end BrowserRemote
