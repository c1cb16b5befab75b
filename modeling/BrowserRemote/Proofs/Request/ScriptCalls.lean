import BrowserRemote.Proofs.Adaptation.Framing
import BrowserRemote.Proofs.Adaptation.Scripts
import BrowserRemote.Proofs.Dialect.Tables
import BrowserRemote.Proofs.Request.Encoding

/-!
# Proofs/Request/ScriptCalls — commands that are run as scripts

    command ────── alias ──────▸ executeScript
    parameters ──── rule ───────▸ script, args ──── no rule ───▸ script, args

A command that the W3C dialect leaves to a script becomes the request of the script command itself,
given the adapted parameters: the alias brings both to one template, and the script command has no
rule that would touch the parameters again (`Dialect.script_rewrite_is_explicit_call`).
-/

namespace BrowserRemote

/-- A command without a rule keeps its parameters. -/
theorem Rules.outcome_adapt_of_no_rule {rules : Rules} {files : FileTree}
    {atoms : Option Repository} {name : Value} {c : Command}
    (hc : name.designated? = .ok (some c)) (hrule : rules.lookup c = none) (p : Dict) :
    (rules.adapt files atoms name (.dict p)).outcome = .ok p := by
  rw [outcome_adapt hc, hrule]
  rfl

namespace Encoder

variable {e : Encoder} {files : FileTree} {name name' parameters parameters' : Value}

/-- Names that are planned alike become the same request, or fail alike. -/
theorem outcome_encode_congr
    (h : (e.plan files name parameters).outcome = (e.plan files name' parameters').outcome)
    (session : Value) : (e.encode files name parameters session).outcome
      = (e.encode files name' parameters' session).outcome := by
  rw [outcome_encode, outcome_encode, h]

end Encoder

namespace Dialect

/-- The commands that the W3C dialect leaves to a script. -/
def scriptCommands : List Command := [
  .getElementAttribute, .getElementLocationOnceScrolledIntoView, .isElementDisplayed,
  .submitElement, .getPageSource, .getCurrentWindowPosition, .setCurrentWindowPosition]

/-- These are the commands with an alias of the script command. -/
theorem alias_eq_executeScript_iff : ∀ c : Command,
    (commandTable .w3c).aliases.lookup c = some .executeScript ↔ c ∈ scriptCommands := by
  decide

/-- Each of them has a rule that makes the call of a script. -/
theorem exists_script_rule {c : Command} (hc : c ∈ scriptCommands) :
    ∃ a, (rules .w3c).lookup c = some a ∧ a.isScript = true := by
  have hall : ∀ c ∈ scriptCommands, ((rules .w3c).lookup c).any Adaptation.isScript = true := by
    decide
  exact (Option.any_eq_true _ _).1 (hall c hc)

/-- The template of the script command. -/
def scriptTemplate : Template := .post "/session/:sessionId/execute/sync"

theorem resolve_executeScript {name : Value} (h : name.designated? = .ok (some .executeScript)) :
    (commandTable .w3c).resolve name = .ok scriptTemplate :=
  CommandTable.resolve_eq_ok_iff.2 ⟨.executeScript, h, rfl⟩

/-- The alias brings each of these commands to the template of the script command. -/
theorem resolve_scriptCommand {name : Value} {c : Command}
    (h : name.designated? = .ok (some c)) (hc : c ∈ scriptCommands) :
    (commandTable .w3c).resolve name = .ok scriptTemplate := by
  refine CommandTable.resolve_eq_ok_iff.2 ⟨c, h, ?_⟩
  rw [CommandTable.template?, (alias_eq_executeScript_iff c).2 hc]
  rfl

/-- **A script command is shorthand for running its script.**  For each of the seven commands that
the W3C dialect leaves to a script, the adapted parameters are a script and its arguments; planning
or encoding the command gives what planning or encoding the script command with the adapted
parameters gives, and adapting these once more for the script command changes nothing. -/
theorem script_rewrite_is_explicit_call {given : Option Repository} {e : Encoder}
    (he : (Dialect.w3c.encoder given).outcome = .ok e) {files : FileTree} {name explicit : Value}
    {c : Command} (hname : name.designated? = .ok (some c)) (hc : c ∈ scriptCommands)
    (hexplicit : explicit.designated? = .ok (some .executeScript)) {p m : Dict}
    (hm : (e.rules.adapt files e.atoms name (.dict p)).outcome = .ok m) (session : Value) :
    (∀ d, e.table.aliases.lookup d = some .executeScript ↔ d ∈ scriptCommands)
    ∧ (∃ body args, m = [(.str "script", .str body), (.str "args", .list args)])
    ∧ (∃ t, (e.plan files name (.dict p)).outcome = .ok (t, m)
        ∧ (e.plan files explicit (.dict m)).outcome = .ok (t, m))
    ∧ (e.encode files name (.dict p) session).outcome
        = (e.encode files explicit (.dict m) session).outcome
    ∧ (e.rules.adapt files e.atoms explicit (.dict m)).outcome = .ok m := by
  obtain rfl := eq_of_encoder he
  obtain ⟨a, ha, hscript⟩ := exists_script_rule hc
  have hagain : ((rules .w3c).adapt files (Dialect.w3c.atoms given) explicit (.dict m)).outcome
      = .ok m := Rules.outcome_adapt_of_no_rule hexplicit rfl m
  have hplan : (Encoder.plan ⟨commandTable .w3c, rules .w3c, Dialect.w3c.atoms given⟩ files name
      (.dict p)).outcome = .ok (scriptTemplate, m) :=
    Encoder.outcome_plan_eq (resolve_scriptCommand hname hc) hm
  have hplan' : (Encoder.plan ⟨commandTable .w3c, rules .w3c, Dialect.w3c.atoms given⟩ files
      explicit (.dict m)).outcome = .ok (scriptTemplate, m) :=
    Encoder.outcome_plan_eq (resolve_executeScript hexplicit) hagain
  obtain ⟨call, hcall⟩ : ∃ call : Script.Call, m = call.parameters := by
    rw [Rules.outcome_adapt hname, ha] at hm
    exact Adaptation.exists_call_of_apply hscript hm
  exact ⟨alias_eq_executeScript_iff, ⟨call.body, call.args, hcall⟩, ⟨_, hplan, hplan'⟩,
    Encoder.outcome_encode_congr (hplan.trans hplan'.symm) session, hagain⟩

/-- An atom with quotes in it is called with the quotes escaped once, also if the call is adapted
again. -/
theorem quoted_atom_is_explicit_call :
    let atoms : Repository := .mapping
      [(.str "getAttribute.js", .str "function(e, n) \x7b return \"x\"; \x7d")] none
    let e : Encoder := ⟨commandTable .w3c, rules .w3c, some atoms⟩
    let p : Dict := [(.str "id", .str "e1"), (.str "name", .str "class")]
    let m : Dict := [
      (.str "script",
        .str "return (function(e, n) \x7b return \\\"x\\\"; \x7d).apply(null, arguments);"),
      (.str "args", .list [Script.elementReference (.str "e1"), .str "class"])]
    (e.rules.adapt .empty e.atoms (.str "getElementAttribute") (.dict p)).outcome = .ok m
      ∧ (e.encode .empty (.str "getElementAttribute") (.dict p) (.str "s")).outcome
        = (e.encode .empty (.command .executeScript) (.dict m) (.str "s")).outcome
      ∧ (e.rules.adapt .empty e.atoms (.command .executeScript) (.dict m)).outcome = .ok m := by
  intro atoms e p m
  have hm : (e.rules.adapt .empty e.atoms (.str "getElementAttribute") (.dict p)).outcome = .ok m :=
    rfl
  have hname : (Value.str "getElementAttribute").designated? = .ok (some .getElementAttribute) :=
    rfl
  have hexplicit : (Value.command .executeScript).designated? = .ok (some .executeScript) := rfl
  obtain ⟨-, -, -, hencode, hagain⟩ := script_rewrite_is_explicit_call
    (outcome_encoder .w3c (some atoms)) hname (by decide) hexplicit hm (.str "s")
  exact ⟨hm, hencode, hagain⟩

end Dialect

end BrowserRemote
