import BrowserRemote.Proofs.Request.AtomUse
import BrowserRemote.Proofs.Request.Planning
import BrowserRemote.Proofs.Request.ScriptArguments

/-!
# Proofs/Request/AtomCalls — from the answer for an atom to the plan of its command

    answer ──text──────▸ source ──▸ body ──▸ parameters ──▸ plan of the script command
       │
       └──not found───▸ script unavailable

The plan of a command with an atom begins with the body that applies the atom
(`Dialect.plan_eq_of_atomCommands`).  So the repository's answer decides: a text is wrapped into the
script that is planned (`Dialect.outcome_plan_of_answer`), and a resource failure leaves the script
unavailable (`Dialect.outcome_plan_of_no_answer`).
-/

namespace BrowserRemote

open Script (atomBody sourceFrom)

namespace Dialect

variable {files : FileTree} {atom : String} {given : Option Repository} {e : Encoder}
  {name parameters : Value} {c : Command} {p : Dict}

/-- The arguments an atom is called with: the element, and for an attribute its name. -/
def atomArguments (c : Command) (p : Dict) : List Value :=
  let element := Script.elementReference ((p.field? "id").getD .null)
  if c = .getElementAttribute then [element, (p.field? "name").getD .null] else [element]

/-- The two commands that ask for an atom. -/
theorem eq_or_eq_of_atomCommands (h : atomCommands.lookup c = some atom) :
    c = .getElementAttribute ∧ atom = Atom.getAttribute
      ∨ c = .isElementDisplayed ∧ atom = Atom.isDisplayed := by
  have hmem := mem_of_lookup h
  simp only [atomCommands, List.mem_cons, List.not_mem_nil, or_false, Prod.mk.injEq] at hmem
  exact hmem

/-- **A command with an atom** is adapted to the call of the body that applies the atom. -/
theorem adapt_eq_of_atomCommands (hname : name.designated? = .ok (some c))
    (hatom : atomCommands.lookup c = some atom) (files : FileTree) (atoms : Option Repository)
    (p : Dict) : (rules .w3c).adapt files atoms name (.dict p) =
      (fun text => (Script.call text (atomArguments c p)).parameters)
        <$> atomBody files atoms (.str atom) := by
  rw [Rules.adapt_eq hname]
  obtain ⟨rfl, rfl⟩ | ⟨rfl, rfl⟩ := eq_or_eq_of_atomCommands hatom
  · exact Adaptation.apply_of_scriptBody? (a := .elementAttribute) rfl p
  · exact Adaptation.apply_of_scriptBody? (a := .elementDisplayed) rfl p

/-- Commands with an atom are planned as the script command. -/
theorem resolve_of_atomCommands (hname : name.designated? = .ok (some c))
    (hatom : atomCommands.lookup c = some atom) :
    (commandTable .w3c).resolve name = .ok scriptTemplate := by
  refine resolve_scriptCommand hname ?_
  obtain ⟨rfl, -⟩ | ⟨rfl, -⟩ := eq_or_eq_of_atomCommands hatom
  · decide
  · decide

/-- **The plan of such a command** begins with the body, and closes with its record. -/
theorem plan_eq_of_atomCommands (he : (w3c.encoder given).outcome = .ok e)
    (hname : name.designated? = .ok (some c)) (hatom : atomCommands.lookup c = some atom)
    (hp : Encoder.given parameters = .dict p) (files : FileTree) :
    e.plan files name parameters = atomBody files e.atoms (.str atom) >>= fun text =>
      ⟨.ok (scriptTemplate, (Script.call text (atomArguments c p)).parameters),
        [Encoder.planRecord c.name scriptTemplate]⟩ := by
  obtain rfl := eq_of_encoder he
  rw [Encoder.plan_of_resolve_ok (resolve_of_atomCommands hname hatom)
    (Value.label_of_designated? hname), hp, adapt_eq_of_atomCommands hname hatom, bind_map_left]

/-- **With a text for its atom**, a command is planned as the call of that text. -/
theorem outcome_plan_of_answer (he : (w3c.encoder given).outcome = .ok e)
    (hc : name.designated? = .ok (some c)) (hatom : atomCommands.lookup c = some atom)
    (hp : Encoder.given parameters = .dict p) {source : String}
    (h : (sourceFrom files e.atoms (.str atom)).outcome = .ok (.str source)) :
    (e.plan files name parameters).outcome = .ok
      (scriptTemplate, (Script.call (Script.applied source) (atomArguments c p)).parameters) := by
  rw [plan_eq_of_atomCommands he hc hatom hp, Script.atomBody_of_source h]
  rfl

/-- **With a resource failure of its atom**, a command has no script. -/
theorem outcome_plan_of_no_answer (he : (w3c.encoder given).outcome = .ok e)
    (hc : name.designated? = .ok (some c)) (hatom : atomCommands.lookup c = some atom)
    (hp : Encoder.given parameters = .dict p) {cause : Fault}
    (h : (sourceFrom files e.atoms (.str atom)).outcome = .error cause)
    (hcause : cause.isResourceFailure = true) : (e.plan files name parameters).outcome
      = .error (.scriptUnavailable (.str atom) atom cause) := by
  rw [plan_eq_of_atomCommands he hc hatom hp,
    ((Script.atomBody_failsAs files e.atoms atom).bind _).resource cause h hcause]

end Dialect

end BrowserRemote
