import BrowserRemote.Encoder
import BrowserRemote.Proofs.CommandTable.Resolution
import BrowserRemote.Proofs.Route.Segments

/-!
# Proofs/Dialect/Tables — the command tables of the two dialects, finished

Drafting the calls of a dialect never fails (`outcome_draft`): the finished table has the
definitions and the aliases that the calls ask for, in their order.  Of any two of its templates,
either the methods differ or a fixed segment of the paths does, so they never give the same request
(`eq_of_meets`).
-/

namespace BrowserRemote

namespace Template

/-- The template has the given placeholders. -/
def hasPlaceholders (t : Template) (names : List String) : Bool :=
  match t.placeholders with
  | .ok found => found == names
  | .error _ => false

theorem placeholders_of_hasPlaceholders {t : Template} {names : List String}
    (h : t.hasPlaceholders names = true) : t.placeholders = .ok names := by
  unfold hasPlaceholders at h
  split at h
  · next found hfound => rw [hfound, beq_iff_eq.1 h]
  · exact absurd h Bool.false_ne_true

end Template

namespace Dialect

/-! ## The finished tables -/

/-- All calls that make up a dialect. -/
def calls (d : Dialect) : List Draft.Call := commonCalls ++ d.ownCalls

/-- **The finished table of a dialect**: what its calls ask for. -/
def commandTable (d : Dialect) : CommandTable :=
  ⟨d.calls.filterMap Draft.Call.definition?, d.calls.filterMap Draft.Call.alias?⟩

/-- **No call of a dialect is refused.** -/
theorem outcome_draft (d : Dialect) :
    d.draft.outcome = .ok ⟨d.commandTable.templates, d.commandTable.aliases⟩ := by
  rcases d with _ | _ <;> rfl

/-- The encoder of a dialect can always be made. -/
theorem outcome_encoder (d : Dialect) (given : Option Repository) :
    (d.encoder given).outcome = .ok ⟨d.commandTable, d.rules, d.atoms given⟩ := by
  rcases d with _ | _ <;> rfl

/-- The encoder of a dialect has its finished table and its rules. -/
theorem eq_of_encoder {d : Dialect} {given : Option Repository} {e : Encoder}
    (h : (d.encoder given).outcome = .ok e) : e = ⟨d.commandTable, d.rules, d.atoms given⟩ :=
  Except.ok.inj (h.symm.trans (d.outcome_encoder given))

/-- **The tables of a dialect fit together**: they were drafted. -/
theorem consistent_commandTable (d : Dialect) :
    Draft.Consistent ⟨d.commandTable.templates, d.commandTable.aliases⟩ := by
  have hcalls : d.draft = Draft.empty.after (Draft.performAll d.calls) := by
    rw [calls, Draft.performAll_append]
    rfl
  exact Draft.consistent_of_after Draft.consistent_empty (hcalls ▸ d.outcome_draft)

/-- **What the encoder of a dialect supports, it resolves.** -/
theorem resolve_of_supports {d : Dialect} {given : Option Repository} {e : Encoder} {name : Value}
    (he : (d.encoder given).outcome = .ok e) (h : e.table.supports name = .ok true) :
    ∃ t, e.table.resolve name = .ok t := by
  obtain rfl := eq_of_encoder he
  exact d.consistent_commandTable.resolve_of_supports h

/-! ## The paths of the tables -/

/-- The commands of a dialect whose paths name an element and nothing else of their own. -/
def elementCommands (d : Dialect) : List Command :=
  [.findChildElement, .findChildElements, .clickElement, .clearElement, .sendKeysToElement,
    .getElementText, .getElementTagName, .isElementSelected, .isElementEnabled, .getElementRect,
    .getElementLocation, .getElementSize]
  ++ match d with
    | .w3c => []
    | .jsonWire => [.getElementLocationOnceScrolledIntoView, .isElementDisplayed, .submitElement]

/-- The commands of a dialect whose paths name a window. -/
def windowCommands : Dialect → List Command
  | .w3c => []
  | .jsonWire => [.maximizeCurrentWindow, .getCurrentWindowPosition, .setCurrentWindowPosition,
    .getCurrentWindowSize, .setCurrentWindowSize]

/-- **The placeholders of a command's path**, in its order, but for the session. -/
def ownPlaceholders (d : Dialect) (c : Command) : List String :=
  if c ∈ d.elementCommands then ["id"]
  else if c ∈ d.windowCommands then ["windowHandle"]
  else match d, c with
    | _, .getElementValueOfCssProperty => ["id", "propertyName"]
    | _, .deleteCookie => ["name"]
    | .jsonWire, .getElementAttribute => ["id", "name"]
    | _, _ => []

/-- The placeholders of a command's path: the session, unless there is none yet, and the command's
own ones. -/
def placeholders (d : Dialect) (c : Command) : List String :=
  if c = .status ∨ c = .newSession then [] else "sessionId" :: d.ownPlaceholders c

/-- The templates of a dialect, each with its placeholders apart, and apart from all others; and
the placeholders of each command. -/
theorem templates_outlined (d : Dialect) :
    (∀ entry ∈ d.commandTable.templates, entry.2.isPlain = true)
      ∧ (d.commandTable.templates.Pairwise fun a b => a.2.isDistinct b.2 = true)
      ∧ ∀ c ∈ Command.all,
          (d.commandTable.template? c).all (·.hasPlaceholders (d.placeholders c)) = true := by
  -- the characters of the paths are what takes long, so all three facts share one evaluation
  rcases d with _ | _ <;> decide +kernel

/-- **No two templates of a dialect can give the same request.** -/
theorem eq_of_meets {d : Dialect} {a b : Command × Template} (ha : a ∈ d.commandTable.templates)
    (hb : b ∈ d.commandTable.templates) : a.2.Meets b.2 → a.2 = b.2 := by
  obtain ⟨-, hdistinct, -⟩ := d.templates_outlined
  have hforward : d.commandTable.templates.Pairwise fun a b => a.2.Meets b.2 → a.2 = b.2 :=
    hdistinct.imp fun h hmeets => absurd hmeets (Template.not_meets_of_isDistinct h)
  have hbackward : d.commandTable.templates.Pairwise
      (flip fun a b => a.2.Meets b.2 → a.2 = b.2) :=
    hforward.imp fun h hmeets => (h hmeets.symm).symm
  exact List.Pairwise.forall_of_forall_of_flip (fun _ _ _ => rfl) hforward hbackward ha hb

/-- The placeholders of a command that has a template. -/
theorem placeholders_eq {d : Dialect} {c : Command} {t : Template}
    (h : d.commandTable.template? c = some t) : t.placeholders = .ok (d.placeholders c) := by
  obtain ⟨-, -, hplaceholders⟩ := d.templates_outlined
  have hfound := hplaceholders c c.mem_all
  rw [h, Option.all_some] at hfound
  exact Template.placeholders_of_hasPlaceholders hfound

end Dialect

end BrowserRemote
