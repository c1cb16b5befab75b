import BrowserRemote.Proofs.Atom.Answers
import BrowserRemote.Proofs.Request.AtomCalls
import BrowserRemote.Proofs.Settings.Latest

/-!
# Proofs/Settings/AtomPrecedence — from the settings to the script that is run

    own atoms ──lacks──▸ directory, if one is named ──lacks──▸ ✗
        │       └──────▸ packaged atoms, if none is
        ▼
      script

Settings answer for an atom from their own atoms first (`Settings.source_repository`).  Behind those
stands the directory they name or, if they name none, what the library brings along; never both
(`Settings.behind`).  The answer decides what the two commands with an atom become; in the JSON wire
dialect no atom is ever asked for (`Settings.plan_eq_of_jsonWire`).
-/

namespace BrowserRemote

/-- The dictionary of texts by name. -/
def Dict.ofTexts (texts : List (String × String)) : Dict :=
  texts.map fun entry => (.str entry.1, .str entry.2)

theorem Dict.field?_ofTexts (name : String) : ∀ texts : List (String × String),
    (Dict.ofTexts texts).field? name = (texts.lookup name).map Value.str
  | [] => rfl
  | (key, text) :: texts => by
    change (if key = name then some (Value.str text) else (Dict.ofTexts texts).field? name) = _
    by_cases h : key = name
    · rw [if_pos h, h, List.lookup_cons_self]
      rfl
    · have hne : (name == key) = false := beq_false_of_ne (Ne.symm h)
      rw [if_neg h, List.lookup_cons, hne, Dict.field?_ofTexts name texts]

/-- **Settings are made** for every name of a dialect. -/
theorem Shelf.make_of_normalKey (shelf : Shelf) {name : String} {d : Dialect}
    (h : Dialect.normalKey name = d.key) (atomPath : Value) (atoms : Dict) :
    shelf.make (.str name) atomPath (.dict atoms) =
      .ok (⟨shelf.made, d, atomPath.present?, atoms⟩,
        shelf.put ⟨shelf.made, d, atomPath.present?, atoms⟩) := by
  rw [make_eq]
  change (dialectOf (Dialect.normalKey name) >>= _) = _
  rw [dialectOf_eq_ok_iff.2 h]
  rfl

namespace Settings

variable {files : FileTree} {atom : String}

/-- Where the atoms are found that settings do not bring themselves. -/
def behind (s : Settings Value) : Repository :=
  match s.atomPath with
  | some path => .directory path
  | none => .packaged

/-- **Settings answer with their own atoms first.** -/
theorem source_repository (s : Settings Value) (atom : String) :
    s.repository.source files (.str atom) = match Dict.field? s.atoms atom with
      | some value => pure value
      | none => s.behind.source files (.str atom) := by
  change (if s.atoms.isEmpty then s.behind else .mapping s.atoms (some s.behind)).source files _ = _
  split
  · next hempty => rw [List.isEmpty_iff.1 hempty]; rfl
  · exact Repository.source_mapping s.atoms (some s.behind) atom

theorem source_repository_of_text {s : Settings Value} {own : List (String × String)}
    (hs : s.atoms = Dict.ofTexts own) {source : String} (h : own.lookup atom = some source) :
    (s.repository.source files (.str atom)).outcome = .ok (.str source) := by
  rw [source_repository, hs, Dict.field?_ofTexts, h]
  rfl

theorem source_repository_of_lacking {s : Settings Value} {own : List (String × String)}
    (hs : s.atoms = Dict.ofTexts own) (h : own.lookup atom = none) :
    s.repository.source files (.str atom) = s.behind.source files (.str atom) := by
  rw [source_repository, hs, Dict.field?_ofTexts, h]
  rfl

/-- The commands with an atom have plain names for it, and the library brings it along. -/
theorem packaged_of_atomCommands {c : Command} (h : Dialect.atomCommands.lookup c = some atom) :
    Repository.isPlainName atom = true ∧ ∃ source, Atom.packagedText? atom = some source := by
  obtain ⟨-, rfl⟩ | ⟨-, rfl⟩ := Dialect.eq_or_eq_of_atomCommands h
  · exact ⟨rfl, Atom.getAttributeSource, rfl⟩
  · exact ⟨rfl, Atom.isDisplayedSource, rfl⟩

/-- **In the JSON wire dialect** all settings plan and encode alike. -/
theorem plan_eq_of_jsonWire {s s' : Settings Value} (hs : s.dialect = .jsonWire)
    (hs' : s'.dialect = .jsonWire) : ∃ e e', s.encoder.outcome = .ok e
      ∧ s'.encoder.outcome = .ok e' ∧ ∀ files files' name parameters session,
        e.plan files name parameters = e'.plan files' name parameters
        ∧ e.encode files name parameters session = e'.encode files' name parameters session := by
  obtain ⟨serial, d, atomPath, atoms⟩ := s
  obtain ⟨serial', d', atomPath', atoms'⟩ := s'
  obtain rfl : d = .jsonWire := hs
  obtain rfl : d' = .jsonWire := hs'
  have he := Dialect.outcome_encoder .jsonWire
    (some (repository ⟨serial, .jsonWire, atomPath, atoms⟩))
  have he' := Dialect.outcome_encoder .jsonWire
    (some (repository ⟨serial', .jsonWire, atomPath', atoms'⟩))
  refine ⟨_, _, he, he', fun files files' name parameters session => ?_⟩
  rw [← Traced.agree_true_iff, ← Traced.agree_true_iff]
  exact Dialect.agree_of_answers he he'
    (fun asked hasked => absurd (Dialect.asked?_eq_some_iff.1 hasked).1 nofun) parameters session

end Settings

namespace Shelf

open Dialect (atomCommands atomArguments scriptTemplate)

/-- The empty path is a directory like any other: files next to the program are found by it. -/
example : ((Settings.repository ⟨0, .w3c, some (.str ""), []⟩).source
    (.ofFiles [("isDisplayed.js", [0x66])]) (.str "isDisplayed.js")).outcome = .ok (.str "f") := rfl

/-- A directory may be named by its way from the root. -/
example : ((Settings.repository ⟨0, .w3c, some (.str "/opt/atoms/"), []⟩).source
    ⟨[(["opt", "atoms", "isDisplayed.js"], .bytes [0x66])], ["home"], []⟩
    (.str "isDisplayed.js")).outcome = .ok (.str "f") := rfl

end Shelf

end BrowserRemote
