import BrowserRemote.Proofs.CommandTable.Consistency

/-!
# Proofs/CommandTable/Resolution — from a name to its template

    name ──designated?──▸ command ──alias, at most once──▸ command ──▸ template

A name resolves when it designates a command with a template, its own or that of its alias
(`resolve_eq_ok_iff`).  A command of a table has none exactly when its alias is `Dangling`, whatever
else the table says (`template?_eq_none_iff`).  A draft that is consistent leaves no alias dangling,
so its table resolves whatever it supports (`Consistent.resolve_of_supports`), and all ways of
asking it for a name agree (`Consistent.answers`).
-/

namespace BrowserRemote

/-- A name of a command is called by the command's word. -/
theorem Value.label_of_designated? : ∀ {name : Value} {c : Command},
    name.designated? = .ok (some c) → name.label = .ok c.name
  | .command d, c, h => by
    obtain rfl : d = c := Option.some.inj (Except.ok.inj h)
    rfl
  | .str s, c, h => by
    rw [Command.name_of_ofName? (Except.ok.inj h)]
    rfl
  | .null, c, h | .bool _, c, h | .int _, c, h | .float _, c, h | .bytes _, c, h | .list _, c, h
  | .tuple _, c, h | .dict _, c, h | .element _, c, h | .settings _, c, h => by
    obtain ⟨_, -, h⟩ := ok_of_bind h
    exact absurd h nofun

/-- A value that is called something designates a command or none. -/
theorem Value.exists_designated? : ∀ {name : Value} {label : String}, name.label = .ok label →
    ∃ found, name.designated? = .ok found
  | .command c, _, _ => ⟨some c, rfl⟩
  | .str s, _, _ => ⟨Command.ofName? s, rfl⟩
  | .settings _, _, _ => ⟨none, rfl⟩
  | .null, _, h | .bool _, _, h | .int _, _, h | .float _, _, h | .bytes _, _, h | .list _, _, h
  | .tuple _, _, h | .dict _, _, h | .element _, _, h =>
    ⟨none, congrArg (fun shown : Except Fault String => shown >>= fun _ => pure none) h⟩

namespace CommandTable

variable {t : CommandTable} {name : Value}

/-- A name of a command resolves to the command's template, or to none. -/
theorem resolve_of_designated? {c : Command} (h : name.designated? = .ok (some c)) :
    t.resolve name = match t.template? c with
      | some template => .ok template
      | none => unsupported name := by
  rw [resolve, h]
  rfl

/-- **A name resolves when it designates a command that has a template.** -/
theorem resolve_eq_ok_iff {template : Template} : t.resolve name = .ok template ↔
    ∃ c, name.designated? = .ok (some c) ∧ t.template? c = some template := by
  constructor
  · intro h
    obtain ⟨found, hfound, hrest⟩ := ok_of_bind h
    rcases found with _ | c
    · obtain ⟨label, -, hrest⟩ := ok_of_bind hrest
      exact absurd hrest nofun
    · rw [resolve_of_designated? hfound] at h
      rcases htemplate : t.template? c with _ | found
      · rw [htemplate] at h
        obtain ⟨label, -, h⟩ := ok_of_bind h
        exact absurd h nofun
      · rw [htemplate] at h
        exact ⟨c, hfound, htemplate.trans (congrArg some (Except.ok.inj h))⟩
  · rintro ⟨c, hc, htemplate⟩
    rw [resolve_of_designated? hc, htemplate]

/-- What a name of a command resolves to is the command's template. -/
theorem template?_of_resolve {c : Command} {template : Template}
    (hname : name.designated? = .ok (some c)) (h : t.resolve name = .ok template) :
    t.template? c = some template := by
  obtain ⟨found, hfound, htemplate⟩ := resolve_eq_ok_iff.1 h
  obtain rfl : c = found := Option.some.inj (Except.ok.inj (hname.symm.trans hfound))
  exact htemplate

/-- A name is supported when it designates a command of the table. -/
theorem supports_eq_ok_true_iff : t.supports name = .ok true ↔
    ∃ c, name.designated? = .ok (some c) ∧ t.has c = true := by
  constructor
  · intro h
    obtain ⟨found, hfound, h⟩ := ok_of_bind h
    rcases found with _ | c
    · exact absurd h nofun
    · exact ⟨c, hfound, Except.ok.inj h⟩
  · rintro ⟨c, hc, hhas⟩
    rw [supports, hc, ← hhas]
    rfl

/-- A name of a command is supported when the table has the command. -/
theorem supports_of_designated? {c : Command} (h : name.designated? = .ok (some c)) :
    t.supports name = .ok (t.has c) := by
  rw [supports, h]
  rfl

/-- A name of no command is not supported. -/
theorem supports_of_undesignated (h : name.designated? = .ok none) :
    t.supports name = .ok false := by
  rw [supports, h]
  rfl

theorem mem_commands_iff {c : Command} : c ∈ t.commands ↔ t.has c = true :=
  List.mem_filter.trans (and_iff_right c.mem_all)

/-! ## Failures -/

/-- The failure to find a request calls the name by its label. -/
theorem unsupported_eq {α : Type} {label : String} (h : name.label = .ok label) :
    (unsupported name : Except Fault α) = .error (.unsupported label) := by
  rw [unsupported, h]
  rfl

/-- **The alias of a command leads nowhere**: to a command without a template of its own. -/
def Dangling (t : CommandTable) (c : Command) : Prop :=
  ∃ e, t.aliases.lookup c = some e ∧ t.templates.lookup e = none

/-- **A command of a table has no template exactly when its alias leads nowhere**, be it that the
target is itself an alias, or that the command has a template of its own behind its alias. -/
theorem template?_eq_none_iff {c : Command} (h : t.has c = true) :
    t.template? c = none ↔ t.Dangling c := by
  rcases halias : t.aliases.lookup c with _ | e
  · have htemplate : (t.templates.lookup c).isSome = true := by
      rw [has, halias] at h
      exact (Bool.or_eq_true_iff.1 h).resolve_right Bool.false_ne_true
    rw [template?, halias, Option.getD_none]
    constructor
    · intro hnone
      rw [hnone] at htemplate
      exact absurd htemplate Bool.false_ne_true
    · rintro ⟨e, he, -⟩
      exact absurd (halias.symm.trans he) (Option.some_ne_none e).symm
  · rw [template?, halias, Option.getD_some]
    constructor
    · exact fun hnone => ⟨e, halias, hnone⟩
    · rintro ⟨f, hf, hnone⟩
      obtain rfl : e = f := Option.some.inj (halias.symm.trans hf)
      exact hnone

/-- **A supported name fails to resolve exactly when its command's alias leads nowhere**, and the
failure calls the command by its name. -/
theorem resolve_eq_error_iff {c : Command} (hname : name.designated? = .ok (some c))
    (hsupports : t.supports name = .ok true) {fault : Fault} :
    t.resolve name = .error fault ↔ t.Dangling c ∧ fault = .unsupported c.name := by
  have hhas : t.has c = true :=
    Except.ok.inj ((supports_of_designated? hname).symm.trans hsupports)
  rw [resolve_of_designated? hname, ← template?_eq_none_iff hhas,
    unsupported_eq (Value.label_of_designated? hname)]
  rcases t.template? c with _ | template
  · exact ⟨fun h => ⟨rfl, (Except.error.inj h).symm⟩, fun h => by rw [h.2]⟩
  · exact ⟨nofun, fun h => absurd h.1 (Option.some_ne_none template)⟩

/-- **All ways of asking a table for a name agree**: the table lists its command, supports the name
and has a template for it, or it does nothing of these and fails with the name's label. -/
structure Answers (t : CommandTable) (name : Value) (label : String) : Prop where
  listed : t.supports name = .ok true ↔ ∃ c ∈ t.commands, name.designated? = .ok (some c)
  resolved : t.supports name = .ok true ↔ ∃ template, t.resolve name = .ok template
  refused : t.supports name ≠ .ok true →
    t.supports name = .ok false ∧ t.resolve name = .error (.unsupported label)

/-- A table has the commands that it has a template for. -/
theorem has_of_template? {c : Command} {template : Template}
    (h : t.template? c = some template) : t.has c = true := by
  rcases halias : t.aliases.lookup c with _ | e
  · rw [template?, halias, Option.getD_none] at h
    rw [has, h]
    rfl
  · rw [has, halias, Option.isSome_some, Bool.or_true]

/-- **A table without dangling aliases** answers alike however it is asked. -/
theorem answers_of_not_dangling (h : ∀ c, t.has c = true → ¬ t.Dangling c) {label : String}
    (hlabel : name.label = .ok label) : t.Answers name label := by
  refine ⟨?_, ⟨fun hsupports => ?_, ?_⟩, fun hsupports => ?_⟩
  · rw [supports_eq_ok_true_iff]
    exact exists_congr fun c => and_comm.trans (and_congr_left fun _ => mem_commands_iff.symm)
  · obtain ⟨c, hc, hhas⟩ := supports_eq_ok_true_iff.1 hsupports
    have hfound : t.template? c ≠ none := mt (template?_eq_none_iff hhas).1 (h c hhas)
    obtain ⟨template, htemplate⟩ := Option.ne_none_iff_exists'.1 hfound
    exact ⟨template, resolve_eq_ok_iff.2 ⟨c, hc, htemplate⟩⟩
  · rintro ⟨template, hresolve⟩
    obtain ⟨c, hc, htemplate⟩ := resolve_eq_ok_iff.1 hresolve
    exact supports_eq_ok_true_iff.2 ⟨c, hc, has_of_template? htemplate⟩
  · obtain ⟨found, hfound⟩ := Value.exists_designated? hlabel
    rcases found with _ | c
    · refine ⟨supports_of_undesignated hfound, ?_⟩
      rw [resolve, hfound]
      exact unsupported_eq hlabel
    · rw [supports_of_designated? hfound] at hsupports ⊢
      have hhas : ¬ t.has c = true := fun hc => hsupports (congrArg Except.ok hc)
      refine ⟨congrArg Except.ok (eq_false_of_ne_true hhas), ?_⟩
      rw [resolve_of_designated? hfound]
      rcases htemplate : t.template? c with _ | template
      · exact unsupported_eq hlabel
      · exact absurd (has_of_template? htemplate) hhas

/-- A template that is found is one of the table. -/
theorem mem_of_template? {c : Command} {template : Template} (h : t.template? c = some template) :
    ∃ d, (d, template) ∈ t.templates :=
  ⟨_, mem_of_lookup h⟩

end CommandTable

namespace Draft

/-- **A consistent draft leaves no alias dangling.** -/
theorem Consistent.not_dangling {d : Draft} (h : d.Consistent) (c : Command) :
    ¬ d.build.Dangling c := by
  rintro ⟨e, he, hnone⟩
  obtain ⟨t, ht⟩ := h.led c e (mem_of_lookup he)
  exact not_mem_of_lookup hnone t ht

/-- **All ways of asking the table of a consistent draft for a name agree.** -/
theorem Consistent.answers {d : Draft} (h : d.Consistent) {name : Value} {label : String}
    (hlabel : name.label = .ok label) : d.build.Answers name label :=
  CommandTable.answers_of_not_dangling (fun c _ => h.not_dangling c) hlabel

/-- **What the table of a consistent draft supports, it resolves.** -/
theorem Consistent.resolve_of_supports {d : Draft} (h : d.Consistent) {name : Value}
    (hname : d.build.supports name = .ok true) : ∃ t, d.build.resolve name = .ok t := by
  obtain ⟨c, hc, -⟩ := CommandTable.supports_eq_ok_true_iff.1 hname
  exact (h.answers (Value.label_of_designated? hc)).resolved.1 hname

end Draft

end BrowserRemote
