import BrowserRemote.Proofs.Adaptation.Search
import BrowserRemote.Proofs.CommandTable.Snapshots
import BrowserRemote.Proofs.Dialect.Tables
import BrowserRemote.Proofs.Request.Planning

/-!
# Proofs/Request/CommonCommands — the dialects agree on what they have in common

                       ┌─⊆─▸ W3C table          rule: only for the four searches
    the common commands ┤
                       └─⊆─▸ JSON wire table    rule: none

Both tables go on from one draft, so a common command has one template in both
(`Dialect.resolve_of_common`).  Rules leave common commands alone but for the searches of the W3C
dialect, and these touch no parameter that a path needs; so the requests differ in the strategy and
the value of a search at most.
-/

namespace BrowserRemote

namespace Dialect

/-- The definitions common to both dialects. -/
def commonTemplates : List (Command × Template) :=
  commonCalls.filterMap Draft.Call.definition?

/-- **No common call is refused.** -/
theorem outcome_commonDraft : commonDraft.outcome = .ok ⟨commonTemplates, []⟩ := rfl

/-- The draft of a dialect goes on from the common one. -/
theorem extends_common (d : Dialect) :
    Draft.Extends ⟨commonTemplates, []⟩ ⟨d.commandTable.templates, d.commandTable.aliases⟩ := by
  refine ⟨?_, List.nil_prefix⟩
  change _ <+: (commonCalls ++ d.ownCalls).filterMap Draft.Call.definition?
  rw [List.filterMap_append]
  exact List.prefix_append _ _

/-- **A common command has its one template in both dialects.** -/
theorem resolve_of_common (d : Dialect) {name : Value} {c : Command} {t : Template}
    (hname : name.designated? = .ok (some c)) (hc : commonTemplates.lookup c = some t) :
    d.commandTable.resolve name = .ok t :=
  d.extends_common.resolve_eq_ok d.consistent_commandTable
    (CommandTable.resolve_eq_ok_iff.2 ⟨c, hname, hc⟩)

/-- The commands that search for elements. -/
def searchCommands : List Command :=
  [.findElement, .findElements, .findChildElement, .findChildElements]

/-- **The rules for common commands**: the W3C dialect adapts searches, and nothing else is
adapted. -/
theorem rules_of_common {c : Command} {t : Template} (hc : commonTemplates.lookup c = some t) :
    (rules .jsonWire).lookup c = none
      ∧ (rules .w3c).lookup c = if c ∈ searchCommands then some .search else none := by
  have hall : ∀ c, (commonTemplates.lookup c).isSome = true →
      (rules .jsonWire).lookup c = none
        ∧ (rules .w3c).lookup c = if c ∈ searchCommands then some .search else none := by
    decide
  exact hall c (Option.isSome_of_mem hc)

/-- The path of a search names no part of the search. -/
theorem not_mem_placeholders_of_search {c : Command} (hc : c ∈ searchCommands) :
    ∀ q ∈ placeholders .w3c c, q ∉ ["using", "value"] := by
  have hall : ∀ c ∈ searchCommands, ∀ q ∈ placeholders .w3c c, q ∉ ["using", "value"] := by decide
  exact hall c hc

end Dialect

namespace Encoder

variable {e : Encoder} {files : FileTree} {name : Value}

/-- Parameters that agree on a placeholder agree on it with any session. -/
theorem field?_pathValues_congr {p m : Dict} {q : String} (h : p.field? q = m.field? q)
    (session : Value) : (pathValues p session).field? q = (pathValues m session).field? q := by
  unfold pathValues
  split
  · rw [Dict.field?_setField, Dict.field?_setField, h]
  · exact h

/-- A command without a rule is planned with its parameters as they are. -/
theorem plan_of_no_rule {c : Command} {t : Template} {p : Dict}
    (hname : name.designated? = .ok (some c)) (hrule : e.rules.lookup c = none)
    (ht : e.table.resolve name = .ok t) :
    e.plan files name (.dict p) = ⟨.ok (t, p), [planRecord c.name t]⟩ := by
  have hadapt : e.rules.adapt files e.atoms name (given (.dict p)) = ⟨.ok p, []⟩ := by
    rw [Rules.adapt_eq hname, hrule]
    rfl
  rw [plan_of_resolve_ok ht (Value.label_of_designated? hname), hadapt]
  rfl

end Encoder

namespace Dialect

variable {given given' : Option Repository} {e e' : Encoder} {name : Value} {c : Command}
  {t : Template} {p m : Dict}

/-- **The path of a search is filled alike before and after the adaptation.** -/
theorem expand_of_search (hname : name.designated? = .ok (some c)) (hc : c ∈ searchCommands)
    (ht : (commandTable .w3c).resolve name = .ok t) (h : p.AgreeBut ["using", "value"] m)
    (session : Value) : t.expand (.dict (Encoder.pathValues p session))
      = t.expand (.dict (Encoder.pathValues m session)) := by
  have htemplate := CommandTable.template?_of_resolve hname ht
  refine Template.expand_congr (placeholders_eq htemplate) fun q hq => ?_
  have hother : q ∉ ["using", "value"] := not_mem_placeholders_of_search hc q hq
  exact Encoder.field?_pathValues_congr (h.field?_eq hother) session

/-- **The two dialects agree on the common commands.**  One that is no search becomes the same
request in both, or fails alike, with the same records.  A search that the W3C dialect makes a
request of becomes one in the JSON wire dialect too, by the same method and path; the latter sends
the parameters as they were given, the former the same keys in the same order with the same values
but for the strategy and the value, and the very same parameters unless an older strategy is asked
for and there is a value. -/
theorem common_commands_agree (he : (Dialect.w3c.encoder given).outcome = .ok e)
    (he' : (Dialect.jsonWire.encoder given').outcome = .ok e') {d : Draft}
    (hd : commonDraft.outcome = .ok d) (hname : name.designated? = .ok (some c))
    (hc : d.templates.lookup c = some t) (files files' : FileTree) (p : Dict) (session : Value) :
    (c ∉ searchCommands →
      e.encode files name (.dict p) session = e'.encode files' name (.dict p) session)
    ∧ (c ∈ searchCommands → ∀ r, (e.encode files name (.dict p) session).outcome = .ok r →
      (∃ r', (e'.encode files' name (.dict p) session).outcome = .ok r'
        ∧ r'.method = r.method ∧ r'.path = r.path ∧ r'.parameters = p)
      ∧ r.parameters.map Prod.fst = p.map Prod.fst
      ∧ p.AgreeBut ["using", "value"] r.parameters
      ∧ ((∀ s ∈ ["class name", "id", "name", "tag name"], p.field? "using" ≠ some (.str s))
          ∨ p.field? "value" = none ∨ p.field? "value" = some .null → r.parameters = p)) := by
  obtain rfl : ⟨commonTemplates, []⟩ = d := Except.ok.inj (outcome_commonDraft.symm.trans hd)
  obtain rfl := eq_of_encoder he
  obtain rfl := eq_of_encoder he'
  obtain ⟨hjson, hw3c⟩ := rules_of_common hc
  have ht : (commandTable .w3c).resolve name = .ok t := resolve_of_common .w3c hname hc
  have ht' : (commandTable .jsonWire).resolve name = .ok t := resolve_of_common .jsonWire hname hc
  have hplan' : Encoder.plan ⟨commandTable .jsonWire, rules .jsonWire, atoms .jsonWire given'⟩
      files' name (.dict p) = ⟨.ok (t, p), [Encoder.planRecord c.name t]⟩ :=
    Encoder.plan_of_no_rule hname hjson ht'
  refine ⟨fun hsearch => ?_, fun hsearch r hr => ?_⟩
  · rw [if_neg hsearch] at hw3c
    refine Traced.agree_true_iff.1 (Encoder.encode_agree (Traced.agree_true_iff.2 ?_) session)
    exact (Encoder.plan_of_no_rule hname hw3c ht).trans hplan'.symm
  · obtain ⟨found, m, path, hplan, hpath, rfl⟩ := Encoder.encode_eq_ok hr
    obtain ⟨hfound, hm⟩ := Encoder.plan_eq_ok hplan
    obtain rfl : t = found := Except.ok.inj (ht.symm.trans hfound)
    have hsearched : Adaptation.searched (.dict p) = .ok m := by
      rw [Rules.outcome_adapt hname, hw3c, if_pos hsearch] at hm
      exact hm
    have hagree := Adaptation.agreeBut_of_searched hsearched
    obtain ⟨-, hcopied⟩ := Encoder.plan_eq_ok (congrArg Traced.outcome hplan')
    refine ⟨⟨⟨t.method, path, p⟩, ?_, rfl, rfl, rfl⟩, hagree.map_fst_eq.symm, hagree,
      Adaptation.searched_eq_self hsearched⟩
    rw [Encoder.outcome_encode_eq ht' hcopied, expand_of_search hname hsearch ht hagree, hpath]
    rfl

/-- A search by identifier goes to one path in both dialects; a title without a session is refused
by both. -/
theorem child_search_and_title_agree :
    let e : Encoder := ⟨commandTable .w3c, rules .w3c, atoms .w3c none⟩
    let e' : Encoder := ⟨commandTable .jsonWire, rules .jsonWire, atoms .jsonWire none⟩
    let p : Dict := [(.str "value", .str "x"), (.str "id", .str "p"), (.str "using", .str "id")]
    (e.encode .empty (.str "findChildElement") (.dict p) (.str "s")).outcome
        = .ok ⟨.str "POST", "/session/s/element/p/element",
          [(.str "value", .str "#x"), (.str "id", .str "p"), (.str "using", .str "css selector")]⟩
      ∧ (∃ r', (e'.encode .empty (.str "findChildElement") (.dict p) (.str "s")).outcome = .ok r'
        ∧ r'.path = "/session/s/element/p/element" ∧ r'.parameters = p)
      ∧ e.encode .empty (.command .getTitle) (.dict p) .null
        = e'.encode .empty (.command .getTitle) (.dict p) .null := by
  intro e e' p
  have hr : (e.encode .empty (.str "findChildElement") (.dict p) (.str "s")).outcome
      = .ok ⟨.str "POST", "/session/s/element/p/element",
        [(.str "value", .str "#x"), (.str "id", .str "p"), (.str "using", .str "css selector")]⟩ :=
    rfl
  have hchild : (Value.str "findChildElement").designated? = .ok (some .findChildElement) := rfl
  have htitle : (Value.command .getTitle).designated? = .ok (some .getTitle) := rfl
  obtain ⟨-, hsearch⟩ := common_commands_agree (outcome_encoder .w3c none)
    (outcome_encoder .jsonWire none) outcome_commonDraft hchild rfl .empty .empty p (.str "s")
  obtain ⟨hplain, -⟩ := common_commands_agree (outcome_encoder .w3c none)
    (outcome_encoder .jsonWire none) outcome_commonDraft htitle rfl .empty .empty p .null
  obtain ⟨⟨r', hr', -, hpath, hparameters⟩, -⟩ := hsearch (by decide) _ hr
  exact ⟨hr, ⟨r', hr', hpath, hparameters⟩, hplain (by decide)⟩

end Dialect

end BrowserRemote
