import BrowserRemote.Proofs.Request.Encoding

/-!
# Proofs/Request/Planning — the request is found first, the parameters are adapted on their own

    resolve ✗ ──▸ the fault, no record
    resolve ✓ ──▸ adapt ✗ ──▸ the fault, the records of adapt
                  adapt ✓ ──▸ template and parameters, the records of adapt, one record more

Aliases are followed in finding the request and nowhere else; rules are looked up for the command
itself and nowhere else.  So the outcome of a plan and its records are those of its two halves
(`plan_of_resolve_error`, `plan_of_resolve_ok`), and each half can be exchanged without a trace in
the other.
-/

namespace BrowserRemote

/-- A name that has a label and finds no request is unsupported, by that label. -/
theorem CommandTable.eq_unsupported_of_resolve {t : CommandTable} {name : Value} {label : String}
    {fault : Fault} (hlabel : name.label = .ok label) (h : t.resolve name = .error fault) :
    fault = .unsupported label := by
  obtain ⟨found, hfound⟩ := Value.exists_designated? hlabel
  have hunsupported := unsupported_eq (α := Template) hlabel
  rcases found with _ | c
  · rw [resolve, hfound] at h
    exact (Except.error.inj (hunsupported.symm.trans h)).symm
  · rw [resolve_of_designated? hfound] at h
    split at h
    · cases h
    · exact (Except.error.inj (hunsupported.symm.trans h)).symm

/-- Rules that agree on the command a name designates adapt alike. -/
theorem Rules.adapt_congr {rules rules' : Rules} {name : Value}
    (h : ∀ c, name.designated? = .ok (some c) → rules.lookup c = rules'.lookup c)
    (files : FileTree) (atoms : Option Repository) (parameters : Value) :
    rules.adapt files atoms name parameters = rules'.adapt files atoms name parameters := by
  have hrule : rules.adaptation? name = rules'.adaptation? name := by
    rcases hname : name.designated? with fault | _ | c
    · rw [adaptation?, adaptation?, hname]
      rfl
    · rw [adaptation?, adaptation?, hname]
      rfl
    · rw [adaptation?, adaptation?, hname]
      exact congrArg Except.ok (h c hname)
  rw [adapt, adapt, hrule]

namespace Encoder

variable {e : Encoder} {files : FileTree} {name parameters : Value}

/-- The record of a plan. -/
def planRecord (label : String) (t : Template) : Record :=
  ⟨.codec, .debug, do return "translated " ++ label ++ " to " ++ (← t.text)⟩

/-- **Without a request nothing else is tried.** -/
theorem plan_of_resolve_error {fault : Fault} (h : e.table.resolve name = .error fault) :
    e.plan files name parameters = ⟨.error fault, []⟩ := by
  have hfirst : (Traced.ofExcept (e.table.resolve name)).outcome = .error fault := h
  exact Traced.bind_error hfirst _

/-- **With a request at hand** the parameters are adapted, and a record closes the plan. -/
theorem plan_of_resolve_ok {t : Template} (ht : e.table.resolve name = .ok t) {label : String}
    (hlabel : name.label = .ok label) : e.plan files name parameters =
      e.rules.adapt files e.atoms name (given parameters) >>= fun m =>
        ⟨.ok (t, m), [planRecord label t]⟩ := by
  have hfirst : (Traced.ofExcept (e.table.resolve name)).outcome = .ok t := ht
  have hsecond : (Traced.ofExcept name.label).outcome = .ok label := hlabel
  refine (Traced.bind_ok hfirst _).trans (congrArg (_ >>= ·) (funext fun m => ?_))
  exact Traced.bind_ok hsecond _

/-- **Finding the request and adapting the parameters are independent, and the request comes
first.**  No parameters are the empty ones.  A name without a request is unsupported whatever the
parameters, the rules and the way of finding atoms are, and no record is written, not even by a
repository that records every question.  A name with a request gives its template together with what
the adaptation makes of the parameters, or fails as the adaptation does; one record more is written
behind those of the adaptation exactly when it succeeds.  Rules matter at the command itself only,
not at the one it is an alias of; and tables that both have a request for the name exchange the
template and nothing else. -/
theorem transport_and_adaptation_independent {label : String} (hlabel : name.label = .ok label)
    (e : Encoder) (files : FileTree) (parameters : Value) :
    e.plan files name .null = e.plan files name (.dict [])
    ∧ (∀ fault, e.table.resolve name = .error fault → fault = .unsupported label
        ∧ ∀ rules atoms files' parameters',
          Encoder.plan ⟨e.table, rules, atoms⟩ files' name parameters' = ⟨.error fault, []⟩)
    ∧ (∀ t, e.table.resolve name = .ok t →
        let adapted := e.rules.adapt files e.atoms name (given parameters)
        (∀ m, adapted.outcome = .ok m →
          e.plan files name parameters = ⟨.ok (t, m), adapted.records ++ [planRecord label t]⟩)
        ∧ ∀ fault, adapted.outcome = .error fault →
          e.plan files name parameters = ⟨.error fault, adapted.records⟩)
    ∧ (∀ rules : Rules,
        (∀ c, name.designated? = .ok (some c) → rules.lookup c = e.rules.lookup c) →
          Encoder.plan ⟨e.table, rules, e.atoms⟩ files name parameters
            = e.plan files name parameters)
    ∧ ∀ table t t', e.table.resolve name = .ok t → CommandTable.resolve table name = .ok t' →
        (Encoder.plan ⟨table, e.rules, e.atoms⟩ files name parameters).outcome
          = (fun plan => (t', plan.2)) <$> (e.plan files name parameters).outcome := by
  refine ⟨rfl, fun fault h => ?_, fun t ht => ⟨fun m hm => ?_, fun fault hm => ?_⟩,
    fun rules hrules => ?_, fun table t t' ht ht' => ?_⟩
  · refine ⟨CommandTable.eq_unsupported_of_resolve hlabel h, ?_⟩
    intro rules atoms files' parameters'
    exact plan_of_resolve_error (e := ⟨e.table, rules, atoms⟩) h
  · rw [plan_of_resolve_ok ht hlabel, Traced.bind_ok hm]
  · rw [plan_of_resolve_ok ht hlabel, Traced.bind_error hm]
  · have hadapt := Rules.adapt_congr hrules files e.atoms (given parameters)
    unfold plan
    rw [hadapt]
  · have hplan' : Encoder.plan ⟨table, e.rules, e.atoms⟩ files name parameters
        = e.rules.adapt files e.atoms name (given parameters) >>= fun m =>
          ⟨.ok (t', m), [planRecord label t']⟩ := plan_of_resolve_ok ht' hlabel
    rw [plan_of_resolve_ok ht hlabel, hplan', Traced.outcome_bind, Traced.outcome_bind]
    rcases (e.rules.adapt files e.atoms name (given parameters)).outcome with fault | m <;> rfl

/-- An alias that leads nowhere is met before the atom of the command is asked for; with a template
for the same command, the answer of the repository decides. -/
theorem attribute_planned_by_transport_first :
    let ask : Repository := .custom fun _ => ⟨.error (.refused .missingKey ""),
      [⟨.atoms, .debug, .ok "asked"⟩]⟩
    let nowhere : CommandTable := ⟨[], [(.getElementAttribute, .executeScript)]⟩
    let somewhere : CommandTable := ⟨[(.getElementAttribute, .get "/attribute")], []⟩
    Encoder.plan ⟨nowhere, .w3c, some ask⟩ .empty (.str "getElementAttribute") .null
        = ⟨.error (.unsupported "getElementAttribute"), []⟩
      ∧ Encoder.plan ⟨somewhere, .w3c, some ask⟩ .empty (.str "getElementAttribute") .null
        = ⟨.error (.refused .missingKey ""), [⟨.atoms, .debug, .ok "asked"⟩]⟩ := by
  intro ask nowhere somewhere
  have hlabel : (Value.str "getElementAttribute").label = .ok "getElementAttribute" := rfl
  obtain ⟨-, hnowhere, -⟩ := transport_and_adaptation_independent hlabel
    ⟨nowhere, .w3c, some ask⟩ .empty .null
  obtain ⟨-, -, hsomewhere, -⟩ := transport_and_adaptation_independent hlabel
    ⟨somewhere, .w3c, some ask⟩ .empty .null
  obtain ⟨-, hplan⟩ := hnowhere (.unsupported "getElementAttribute") rfl
  obtain ⟨-, hfails⟩ := hsomewhere (.get "/attribute") rfl
  exact ⟨hplan .w3c (some ask) .empty .null, hfails (.refused .missingKey "") rfl⟩

end Encoder

end BrowserRemote
