import BrowserRemote.Proofs.Atom.Chains
import BrowserRemote.Proofs.Request.AtomCalls

/-!
# Proofs/Request/AtomFailures — a failure of the last repository of a chain, seen from the request

    mapping ──▸ … ──▸ mapping ──▸ base ──failure──▸ body ──▸ parameters ──▸ plan ──▸ request

Mappings without an atom hand on the answer of the repository behind them, whatever it is
(`Repository.source_chain_of_lacking`), and the plan of a command with an atom begins with the body
of its call (`Dialect.plan_eq_of_atomCommands`).  So a plan and a request fail as the base does
(`Script.FailsAs.bind`), and the record of a plan is not reached.
-/

namespace BrowserRemote

open Script (FailsAs sourceFrom atomBody)

/-- **What a store refuses counts as a resource failure** when it has no such atom or when the
system is to blame; a key that is missing does not count. -/
theorem Fault.isResourceFailure_refused_iff (kind : Refusal) (text : String) :
    (Fault.refused kind text).isResourceFailure = true
      ↔ kind = .notFound ∨ kind = .system ∨ kind = .permission := by
  cases kind <;> simp [isResourceFailure, isAtomNotFound, isSystemFailure]

namespace Repository

/-- A chain in front of a repository is one. -/
theorem exists_chain_eq_some (base : Repository) : ∀ mappings : List Dict,
    ∃ r, chain mappings (some base) = some r
  | [] => ⟨base, rfl⟩
  | sources :: rest => ⟨.mapping sources (chain rest (some base)), rfl⟩

/-- **Mappings without an atom** leave the answer to their base. -/
theorem source_chain_of_lacking {base r : Repository} {mappings : List Dict} {atom : String}
    (hr : chain mappings (some base) = some r)
    (hlacking : ∀ sources ∈ mappings, sources.field? atom = none) (files : FileTree) :
    r.source files (.str atom) = base.source files (.str atom) := by
  have hnone : mappings.findSome? (·.get? (.str atom)) = none := by
    refine List.findSome?_eq_none_iff.2 fun sources hsources => ?_
    rw [Dict.get?_str, hlacking sources hsources]
  have hchain : sourceBehind files (chain mappings (some base)) (.str atom) = _ :=
    sourceBehind_chain rfl (some base) mappings
  rw [hr, hnone] at hchain
  exact hchain

end Repository

namespace Dialect

variable {e : Encoder} {atom : String}

/-- Behind mappings that lack the atom, the base of the chain is asked. -/
theorem sourceFrom_of_chain {mappings : List Dict} {base : Repository}
    (he : (w3c.encoder (Repository.chain mappings (some base))).outcome = .ok e)
    (hlacking : ∀ sources ∈ mappings, sources.field? atom = none) (files : FileTree) :
    sourceFrom files e.atoms (.str atom) = base.source files (.str atom) := by
  obtain ⟨r, hr⟩ := Repository.exists_chain_eq_some base mappings
  obtain rfl := eq_of_encoder he
  rw [hr]
  exact Repository.source_chain_of_lacking hr hlacking files

/-- **Resource failures are translated, and no others.**  Whatever the repository answers for an
atom, its call has the records of the answer, and one warning more exactly when the answer is a
resource failure; then the script is unavailable, with that failure for its cause, while any other
failure comes out as it is.  A store's refusal is a resource failure when the atom was not found or
the system or its permissions are to blame, but not when a key or a look-up failed or a value was
bad; and neither is a repository without a way of finding atoms.  The same holds of plans and
requests of the two commands with an atom in the W3C dialect, behind any number of mappings that
lack the atom: the base decides, and the record of a plan is written only when there is one. -/
theorem resource_failures_alone_are_translated (files : FileTree) :
    (∀ kind text, (Fault.refused kind text).isResourceFailure = true
      ↔ kind = .notFound ∨ kind = .system ∨ kind = .permission)
    ∧ Fault.noAtomLookup.isResourceFailure = false
    ∧ (∀ atoms atom args,
        let answer := sourceFrom files atoms (.str atom)
        let called := Script.callAtom files atoms (.str atom) args
        FailsAs atom answer called
        ∧ ∀ source, answer.outcome = .ok source →
          called = ⟨(fun text => Script.call (Script.applied text) args) <$> source.text,
            answer.records⟩)
    ∧ ∀ mappings base e name c atom parameters p session,
        (w3c.encoder (Repository.chain mappings (some base))).outcome = .ok e →
        name.designated? = .ok (some c) → atomCommands.lookup c = some atom →
        Encoder.given parameters = .dict p →
        (∀ sources ∈ mappings, Dict.field? sources atom = none) →
        let answer := base.source files (.str atom)
        FailsAs atom answer (e.plan files name parameters)
        ∧ FailsAs atom answer (e.encode files name parameters session)
        ∧ ∀ source text, answer.outcome = .ok source → source.text = .ok text →
          e.plan files name parameters = ⟨.ok (scriptTemplate,
              (Script.call (Script.applied text) (atomArguments c p)).parameters),
            answer.records ++ [Encoder.planRecord c.name scriptTemplate]⟩ := by
  refine ⟨Fault.isResourceFailure_refused_iff, rfl, ?_, ?_⟩
  · intro atoms atom args answer called
    have hcalled : called = (Script.call · args) <$> atomBody files atoms (.str atom) :=
      Script.callAtom_eq files atoms (.str atom) args
    rw [hcalled]
    refine ⟨(Script.atomBody_failsAs files atoms atom).map _, fun source hsource => ?_⟩
    rw [Script.atomBody_of_source hsource]
    cases source.text with
    | error fault => rfl
    | ok text => exact congrArg (Traced.mk _) (List.append_nil _)
  · intro mappings base e name c atom parameters p session he hname hatom hp hlacking answer
    have hanswer : sourceFrom files e.atoms (.str atom) = answer :=
      sourceFrom_of_chain he hlacking files
    have hplan := plan_eq_of_atomCommands he hname hatom hp files
    have hfails : FailsAs atom answer (e.plan files name parameters) := by
      rw [hplan, ← hanswer]
      exact (Script.atomBody_failsAs files e.atoms atom).bind _
    refine ⟨hfails, hfails.bind _, fun source text hsource htext => ?_⟩
    rw [← hanswer] at hsource
    rw [hplan, Script.atomBody_of_source hsource, htext, hanswer]
    rfl

/-- Behind two mappings, a permission that is refused leaves the script unavailable; a key that is
missing in the base is not taken for one that a mapping in front of it lacks. -/
theorem refusals_behind_two_mappings :
    let base (kind : Refusal) : Repository := .custom fun _ => .fail (.refused kind "k")
    let e (kind : Refusal) : Encoder :=
      ⟨commandTable .w3c, rules .w3c, w3c.atoms (Repository.chain [[], []] (some (base kind)))⟩
    (e .permission).plan .empty (.command .isElementDisplayed) .null
        = ⟨.error (.scriptUnavailable (.str "isDisplayed.js") "isDisplayed.js"
            (.refused .permission "k")),
          [Script.unavailableRecord "isDisplayed.js" (.refused .permission "k")]⟩
      ∧ (e .missingKey).plan .empty (.command .isElementDisplayed) .null
        = .fail (.refused .missingKey "k") := by
  intro base e
  obtain ⟨hkinds, -, -, hplans⟩ := resource_failures_alone_are_translated .empty
  have hfails (kind : Refusal) : FailsAs "isDisplayed.js" (.fail (.refused kind "k"))
      ((e kind).plan .empty (.command .isElementDisplayed) .null) :=
    (hplans [[], []] (base kind) (e kind) (.command .isElementDisplayed) .isElementDisplayed
      "isDisplayed.js" .null [] .null (outcome_encoder .w3c _) rfl rfl rfl
      (by simp [Dict.field?])).1
  refine ⟨(hfails .permission).resource _ rfl ?_, (hfails .missingKey).other _ rfl rfl⟩
  exact (hkinds .permission "k").2 (Or.inr (Or.inr rfl))

end Dialect

end BrowserRemote
