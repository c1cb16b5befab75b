import BrowserRemote.Proofs.Setup.Execution
import BrowserRemote.Setup.Load

/-!
# Proofs/Setup/Loading — what is left of a setup file, loaded or not

    execution ──▸ settings ──▸ level ──▸ report ──▸ setup
        ✗            ✗           ✗
           the log is as it was

The deeds of an execution decide what loading comes to.  All settings made on the way are on the
shelf, wherever it ends.  The level changes once the settings are there and the level that was asked
for is one; before that point every failure leaves the log alone (`load_of_stopped`,
`load_of_unset`, `load_of_refused`), and behind it nothing fails any more (`load_of_level`):
whatever becomes of the report (`exists_reports`), there is a setup.
-/

namespace BrowserRemote.Setup

open Stateful (bind_of_ok bind_of_error lift_bind)

/-! ## What deeds leave behind -/

/-- The level asked for last is refused. -/
def LevelRefused (done : List Deed) (fault : Fault) : Prop :=
  ∃ asked, asked ≠ .null ∧ LastSet done levelName asked ∧ levelOf asked = .error fault

/-- **The level that deeds leave**: the one asked for last, or the one that was if none is. -/
def LevelLeft (done : List Deed) (before level : Int) : Prop :=
  (∃ asked, asked ≠ .null ∧ LastSet done levelName asked ∧ levelOf asked = .ok level)
    ∨ (∀ asked, LastSet done levelName asked → asked = .null) ∧ level = before

/-- **What becomes of the report of settings at a level**: the level holds it back, or it is shown
in one line, or else it is lost because the settings have no text. -/
inductive Reports (level : Int) (settings : Value) (path : String) :
    List LogLine → List Fault → Prop where
  | heldBack (h : Log.passes level (report settings path) = false) :
    Reports level settings path [] []
  | shown {text : String} (h : Log.passes level (report settings path) = true)
    (htext : settings.text = .ok text) :
    Reports level settings path [⟨.builder, .debug, text ++ " (from " ++ path ++ ")"⟩] []
  | lost {fault : Fault} (h : Log.passes level (report settings path) = true)
    (htext : settings.text = .error fault) : Reports level settings path [] [fault]

section Left

variable {vars : Variables} {done : List Deed} {name : String}

theorem left?_eq_some (h : ∀ v, vars.lookup name = some v ↔ LastSet done name v) {v : Value}
    (hv : v ≠ .null) (hlast : LastSet done name v) : left? vars name = some v := by
  rw [left?, (h v).2 hlast]
  exact Value.present?_of_ne_null hv

theorem left?_eq_none (h : ∀ v, vars.lookup name = some v ↔ LastSet done name v)
    (hnull : ∀ v, LastSet done name v → v = .null) : left? vars name = none := by
  rw [left?]
  rcases hvars : vars.lookup name with _ | v
  · rfl
  · rw [hnull v ((h v).1 hvars)]
    rfl

end Left

/-! ## Loading, step by step -/

/-- **A report adds what becomes of it to the log**, and does nothing else. -/
theorem exists_reports (host : Host) (settings : Value) (path : String) : ∃ lines lost,
    Reports host.level settings path lines lost ∧ host.told (report settings path) =
      { host with journal := host.journal ++ lines, lost := host.lost ++ lost } := by
  rw [Host.told]
  cases hpasses : Log.passes host.level (report settings path) with
  | false =>
    refine ⟨[], [], .heldBack hpasses, ?_⟩
    rw [List.append_nil, List.append_nil]
    rfl
  | true =>
    rw [if_pos rfl, Record.line, report]
    cases htext : settings.text with
    | error fault =>
      refine ⟨[], [fault], .lost hpasses htext, ?_⟩
      rw [List.append_nil]
      rfl
    | ok text =>
      refine ⟨_, [], .shown hpasses htext, ?_⟩
      rw [List.append_nil]
      rfl

/-- The host with the settings that deeds made on its shelf. -/
def keeping (host : Host) (deeds : List Deed) : Host :=
  { host with shelf := host.shelf.putAll (settingsMade deeds) }

section Load

variable {w : Workspace} {path : String} {options : Value} {host : Host}
  {statements : List Statement} {deeds : List Deed}

/-- A file that cannot be read does nothing. -/
theorem load_of_unreadable {fault : Fault} (hread : w.statementsAt path = .error fault) :
    load w path options host = (.error fault, host) := by
  rw [load, lift_bind, hread]

theorem onShelf_of_executes {outcome : Except Fault Unit}
    (h : Executes (.start options host.shelf) statements deeds outcome) :
    Host.onShelf (run [(optionsName, options)] statements) host =
      ((fun _ => ((Stage.start options host.shelf).after deeds).vars) <$> outcome,
        keeping host deeds) := by
  have hrun : run [(optionsName, options)] statements host.shelf = _ := run_of_executes h
  rw [Host.onShelf, hrun, shelf_after]
  rfl

/-- **A failure in the program** keeps what was made before it, and changes nothing else. -/
theorem load_of_stopped (hread : w.statementsAt path = .ok statements) {fault : Fault}
    (h : Executes (.start options host.shelf) statements deeds (.error fault)) :
    load w path options host = (.error fault, keeping host deeds) := by
  rw [load, lift_bind, hread]
  exact bind_of_error (onShelf_of_executes h) _

variable (hread : w.statementsAt path = .ok statements)
  (h : Executes (.start options host.shelf) statements deeds (.ok ()))

include hread h

/-- **Without settings** nothing but what was made is kept. -/
theorem load_of_unset
    (hnull : ∀ v, LastSet (.sets optionsName options :: deeds) settingsName v → v = .null) :
    load w path options host = (.error (.settingsUnset path), keeping host deeds) := by
  have hsettings := left?_eq_none (lookup_after_start options host.shelf deeds settingsName) hnull
  rw [load, lift_bind, hread]
  refine (bind_of_ok (onShelf_of_executes h) _).trans ?_
  rw [hsettings]
  rfl

section Settings

variable {settings : Value} (hsettings : settings ≠ .null)
  (hlast : LastSet (.sets optionsName options :: deeds) settingsName settings)

include hsettings hlast

/-- **A level that is refused** stays as it was. -/
theorem load_of_refused {fault : Fault}
    (hlevel : LevelRefused (.sets optionsName options :: deeds) fault) :
    load w path options host = (.error fault, keeping host deeds) := by
  obtain ⟨asked, hasked, hlastAsked, hrefused⟩ := hlevel
  have hleft := left?_eq_some (lookup_after_start options host.shelf deeds settingsName)
    hsettings hlast
  have hleftLevel := left?_eq_some (lookup_after_start options host.shelf deeds levelName)
    hasked hlastAsked
  rw [load, lift_bind, hread]
  refine (bind_of_ok (onShelf_of_executes h) _).trans ?_
  rw [hleft, hleftLevel]
  dsimp only
  rw [lift_bind, hrefused]

/-- **With settings and a level** the file is loaded, and its report goes to the log. -/
theorem load_of_level {level : Int}
    (hlevel : LevelLeft (.sets optionsName options :: deeds) host.level level) :
    load w path options host =
      (.ok ⟨path, settings, ((Stage.start options host.shelf).after deeds).vars⟩,
        Host.told { keeping host deeds with level } (report settings path)) := by
  have hleft := left?_eq_some (lookup_after_start options host.shelf deeds settingsName)
    hsettings hlast
  rw [load, lift_bind, hread]
  refine (bind_of_ok (onShelf_of_executes h) _).trans ?_
  rw [hleft]
  rcases hlevel with ⟨asked, hasked, hlastAsked, hlevel⟩ | ⟨hnull, rfl⟩
  · have hleftLevel := left?_eq_some (lookup_after_start options host.shelf deeds levelName)
      hasked hlastAsked
    rw [hleftLevel]
    dsimp only
    rw [lift_bind, hlevel]
    rfl
  · rw [left?_eq_none (lookup_after_start options host.shelf deeds levelName) hnull]
    rfl

end Settings

end Load

/-- The level asked for last, if there is one, is refused or left. -/
theorem levelRefused_or_left (done : List Deed) (before : Int) :
    (∃ fault, LevelRefused done fault) ∨ ∃ level, LevelLeft done before level := by
  by_cases hasked : ∃ asked, asked ≠ .null ∧ LastSet done levelName asked
  · obtain ⟨asked, hnull, hlast⟩ := hasked
    cases hlevel : levelOf asked with
    | error fault => exact Or.inl ⟨fault, asked, hnull, hlast, hlevel⟩
    | ok level => exact Or.inr ⟨level, Or.inl ⟨asked, hnull, hlast, hlevel⟩⟩
  · have hnull : ∀ asked, LastSet done levelName asked → asked = .null := fun asked hlast =>
      by_contra fun hne => hasked ⟨asked, hne, hlast⟩
    exact Or.inr ⟨before, Or.inr ⟨hnull, rfl⟩⟩

/-- **Whatever loading fails of**, only what was made on the way is kept. -/
theorem eq_keeping_of_failed {w : Workspace} {path : String} {options : Value} {host after : Host}
    {statements : List Statement} {deeds : List Deed} {outcome : Except Fault Unit} {fault : Fault}
    (hread : w.statementsAt path = .ok statements)
    (h : Executes (.start options host.shelf) statements deeds outcome)
    (hfailed : load w path options host = (.error fault, after)) : after = keeping host deeds := by
  have hkeeping {fault' : Fault}
      (hload : load w path options host = (.error fault', keeping host deeds)) :
      after = keeping host deeds := congrArg Prod.snd (hfailed.symm.trans hload)
  rcases outcome with stopped | _
  · exact hkeeping (load_of_stopped hread h)
  by_cases hnull : ∀ v, LastSet (.sets optionsName options :: deeds) settingsName v → v = .null
  · exact hkeeping (load_of_unset hread h hnull)
  push Not at hnull
  obtain ⟨settings, hlast, hsettings⟩ := hnull
  rcases levelRefused_or_left (.sets optionsName options :: deeds) host.level with
    ⟨refusal, hrefused⟩ | ⟨level, hleft⟩
  · exact hkeeping (load_of_refused hread h hsettings hlast hrefused)
  · rw [load_of_level hread h hsettings hlast hleft] at hfailed
    cases congrArg Prod.fst hfailed

/-- The attributes of a setup are its settings, its path and what its variables were last set to. -/
theorem readAttribute_of_executed {options settings : Value} {shelf : Shelf} {deeds : List Deed}
    {path name : String} (hname : name ∉ ownAttributes) :
    let s : Setup := ⟨path, settings, ((Stage.start options shelf).after deeds).vars⟩
    (∀ v, LastSet (.sets optionsName options :: deeds) name v → readAttribute s name = .ok v)
    ∧ ((∀ v, ¬ LastSet (.sets optionsName options :: deeds) name v) → name ≠ runtimeName →
      readAttribute s name = .error (.noAttribute (Text.quoted name))) := by
  intro s
  have hlookup := lookup_after_start options shelf deeds name
  obtain ⟨hconfig, hothers⟩ := not_or.1 (mt List.mem_cons.2 hname)
  obtain ⟨hpath, -⟩ := not_or.1 (mt List.mem_cons.2 hothers)
  rw [readAttribute, if_neg hconfig, if_neg hpath, if_neg hname]
  refine ⟨fun v hv => by rw [(hlookup v).2 hv], fun hnone hruntime => ?_⟩
  rcases hvars : s.bindings.lookup name with _ | v
  · exact if_neg hruntime
  · exact absurd ((hlookup v).1 hvars) (hnone v)

/-- Settings whose atoms are looked for at a number have no text: they are loaded, and their report
is lost at the level they ask for. -/
example :
    let program : List Statement := [
      .assign settingsName (.newSettings
        [("dialect", .value (.str "w3c")), ("atom_path", .value (.int 5))]),
      .assign levelName (.value (.str "DEBUG"))]
    let host := (load ⟨.empty, some program⟩ programName (.dict []) (.atLevel 20)).2
    host.level = 10 ∧ host.journal = [] ∧ host.lost = [.wrongType] := by
  intro program host
  set_option maxRecDepth 2000 in
  exact ⟨rfl, rfl, rfl⟩

end BrowserRemote.Setup
