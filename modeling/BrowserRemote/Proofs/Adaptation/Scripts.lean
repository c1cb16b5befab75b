import BrowserRemote.Adaptation.Basic
import BrowserRemote.Proofs.Script.AtomSource

/-!
# Proofs/Adaptation/Scripts — an adaptation to a script is a body and some entries

    rule ──────────▸ body ───────┐
                                 ├──▸ call ──▸ script, args
    entries ───────▸ arguments ──┘

The seven adaptations to a script differ in the body they run and in the entries they read, and in
nothing else: each is the call of its body with the arguments its entries give
(`apply_of_scriptBody?`).
-/

namespace BrowserRemote

/-- The value of an entry, null if there is none. -/
def Dict.entry (p : Dict) (q : String) : Value := (p.field? q).getD .null

namespace Adaptation

variable {files : FileTree} {atoms : Option Repository} {a : Adaptation}

/-- The adaptation puts the call of a script in place of the parameters. -/
def isScript : Adaptation → Bool
  | .search | .inCurrentWindow => false
  | .elementAttribute | .locationInView | .pageSource | .windowPosition | .moveWindow
  | .elementDisplayed | .submit => true

/-- **The body of the script** that an adaptation makes a call of, if it makes one. -/
def scriptBody? (files : FileTree) (atoms : Option Repository) :
    Adaptation → Option (Traced String)
  | .elementAttribute => some (Script.atomBody files atoms (.str Atom.getAttribute))
  | .elementDisplayed => some (Script.atomBody files atoms (.str Atom.isDisplayed))
  | .locationInView => some (pure locationInViewScript)
  | .pageSource => some (pure pageSourceScript)
  | .windowPosition => some (pure windowPositionScript)
  | .moveWindow => some (pure moveWindowScript)
  | .submit => some (pure submitScript)
  | .search | .inCurrentWindow => none

/-- The entries the arguments of the script are read from, in their order. -/
def argumentNames : Adaptation → List String
  | .elementAttribute => ["id", "name"]
  | .elementDisplayed | .locationInView | .submit => ["id"]
  | .moveWindow => ["x", "y"]
  | .pageSource | .windowPosition | .search | .inCurrentWindow => []

/-- The argument an entry gives: an element is handed over by a reference to it. -/
def argumentOf (p : Dict) (q : String) : Value :=
  if q = "id" then Script.elementReference (p.entry q) else p.entry q

theorem exists_scriptBody? (ha : a.isScript = true) (files : FileTree)
    (atoms : Option Repository) : ∃ body, a.scriptBody? files atoms = some body := by
  cases a with
  | search | inCurrentWindow => exact absurd ha Bool.false_ne_true
  | _ => exact ⟨_, rfl⟩

/-- **An adaptation to a script is the call of its body** with its arguments. -/
theorem apply_of_scriptBody? {body : Traced String} (h : a.scriptBody? files atoms = some body)
    (p : Dict) : a.apply files atoms (.dict p) =
      (fun text => (Script.call text (a.argumentNames.map (argumentOf p))).parameters)
        <$> body := by
  cases a with
  | search | inCurrentWindow => cases h
  | locationInView | pageSource | windowPosition | moveWindow | submit =>
    obtain rfl := Option.some.inj h
    rfl
  | elementAttribute =>
    obtain rfl := Option.some.inj h
    have happly : elementAttribute.apply files atoms (.dict p) = Script.Call.parameters <$>
        Script.callAtom files atoms (.str Atom.getAttribute)
          [argumentOf p "id", argumentOf p "name"] := rfl
    rw [happly, Script.callAtom_eq, Functor.map_map]
    rfl
  | elementDisplayed =>
    obtain rfl := Option.some.inj h
    have happly : elementDisplayed.apply files atoms (.dict p) = Script.Call.parameters <$>
        Script.callAtom files atoms (.str Atom.isDisplayed) [argumentOf p "id"] := rfl
    rw [happly, Script.callAtom_eq, Functor.map_map]
    rfl

/-- **All that is left by an adaptation to a script is a call.** -/
theorem exists_call_of_apply {p m : Dict} (ha : a.isScript = true)
    (h : (a.apply files atoms (.dict p)).outcome = .ok m) :
    ∃ call : Script.Call, m = call.parameters := by
  obtain ⟨body, hbody⟩ := exists_scriptBody? ha files atoms
  rw [apply_of_scriptBody? hbody] at h
  obtain ⟨text, -, h⟩ := Traced.ok_of_outcome_bind h
  exact ⟨_, (Except.ok.inj h).symm⟩

end Adaptation

end BrowserRemote
