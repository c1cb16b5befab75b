import BrowserRemote.Proofs.CommandTable.Resolution

/-!
# Proofs/CommandTable/Snapshots — tables built along a run of drafting

    call ── call ── build ── call ── call ── build ──▸ …
                      │                        │
                      ▼                        ▼
                    table          ⊆         table

A draft only grows (`extends_attemptAll`), and a consistent draft that goes on from another one
resolves all that the other one resolves, to the same templates (`Extends.resolve_eq_ok`): a command
with a template never gets an alias in front of it.  A table is a copy, so it stays as it was built
(`Workshop.exists_built_run`).
-/

namespace BrowserRemote

namespace Draft

/-- **A command with a template of its own resolves to it**: no alias stands in front. -/
theorem Consistent.template?_of_own {d : Draft} (h : d.Consistent) {c : Command} {t : Template}
    (hc : d.templates.lookup c = some t) : d.build.template? c = some t := by
  rcases halias : d.aliases.lookup c with _ | e
  · rw [CommandTable.template?, build, halias, Option.getD_none]
    exact hc
  · exact absurd (mem_of_lookup halias) (h.apart c t e (mem_of_lookup hc))

/-- A command with an alias resolves to the template of the alias. -/
theorem template?_of_alias {d : Draft} {c e : Command} {t : Template}
    (hc : d.aliases.lookup c = some e) (he : d.templates.lookup e = some t) :
    d.build.template? c = some t := by
  rw [CommandTable.template?, build, hc, Option.getD_some]
  exact he

/-! ## Drafts that go on -/

/-- **A draft that goes on from another one**: it has further entries behind those of the other. -/
structure Extends (d d' : Draft) : Prop where
  templates : d.templates <+: d'.templates
  aliases : d.aliases <+: d'.aliases

namespace Extends

variable {d d' d'' : Draft}

theorem refl (d : Draft) : d.Extends d :=
  ⟨List.prefix_rfl, List.prefix_rfl⟩

theorem trans (h : d.Extends d') (h' : d'.Extends d'') : d.Extends d'' :=
  ⟨h.templates.trans h'.templates, h.aliases.trans h'.aliases⟩

/-- **A command keeps its template**: it keeps its own one because it gets no alias later. -/
theorem template?_eq_some (h : d.Extends d') (hd' : d'.Consistent) {c : Command} {t : Template}
    (ht : d.build.template? c = some t) : d'.build.template? c = some t := by
  rcases halias : d.aliases.lookup c with _ | e
  · rw [CommandTable.template?, build, halias, Option.getD_none] at ht
    exact hd'.template?_of_own (h.templates.lookup_eq_some ht)
  · rw [CommandTable.template?, build, halias, Option.getD_some] at ht
    exact template?_of_alias (h.aliases.lookup_eq_some halias) (h.templates.lookup_eq_some ht)

/-- **What a draft resolves stays resolved**, to the same template. -/
theorem resolve_eq_ok (h : d.Extends d') (hd' : d'.Consistent) {name : Value} {t : Template}
    (ht : d.build.resolve name = .ok t) : d'.build.resolve name = .ok t := by
  obtain ⟨c, hc, htemplate⟩ := CommandTable.resolve_eq_ok_iff.1 ht
  exact CommandTable.resolve_eq_ok_iff.2 ⟨c, hc, h.template?_eq_some hd' htemplate⟩

/-- What a draft supports stays supported. -/
theorem supports_eq_ok (h : d.Extends d') (hd : d.Consistent) (hd' : d'.Consistent) {name : Value}
    (hname : d.build.supports name = .ok true) : d'.build.supports name = .ok true := by
  obtain ⟨t, ht⟩ := hd.resolve_of_supports hname
  obtain ⟨c, hc, htemplate⟩ := CommandTable.resolve_eq_ok_iff.1 (h.resolve_eq_ok hd' ht)
  exact CommandTable.supports_eq_ok_true_iff.2 ⟨c, hc, CommandTable.has_of_template? htemplate⟩

end Extends

theorem Addition.extends {d d' : Draft} {call : Call} (h : d.Addition call d') : d.Extends d' := by
  rcases h with - | -
  · exact ⟨List.prefix_append _ _, List.prefix_rfl⟩
  · exact ⟨List.prefix_rfl, List.prefix_append _ _⟩

/-- A call that is taken adds what it asks for. -/
theorem addition_of_taken {call : Call} {desk : Desk} (h : (perform call desk).1 = .ok ()) :
    desk.draft.Addition call (desk.attempt call).draft := by
  rcases refused_or_taken call desk with ⟨fault, hcall⟩ | ⟨d, record, hadd, hcall, -⟩
  · rw [hcall] at h
    exact absurd h nofun
  · rw [Desk.attempt, hcall]
    exact hadd

/-- One call takes nothing out of a draft. -/
theorem extends_attempt (desk : Desk) (call : Call) :
    desk.draft.Extends (desk.attempt call).draft := by
  rcases refused_or_taken call desk with ⟨fault, hcall⟩ | ⟨d, record, hadd, hcall, -⟩
  · rw [Desk.attempt, hcall]
    exact .refl desk.draft
  · rw [Desk.attempt, hcall]
    exact hadd.extends

/-- **A run of calls takes nothing out of a draft.** -/
theorem extends_attemptAll (desk : Desk) (calls : List Call) :
    desk.draft.Extends (desk.attemptAll calls).draft := by
  induction calls generalizing desk with
  | nil => exact .refl desk.draft
  | cons call calls ih => exact (extends_attempt desk call).trans (ih (desk.attempt call))

/-! ## What a call that is taken makes a name resolve to -/

/-- **A defined command resolves to the template it was defined with.** -/
theorem resolve_of_defined {desk : Desk} (hdesk : desk.draft.Consistent)
    {name method path : Value} (h : (perform (.define name method path) desk).1 = .ok ()) :
    (desk.attempt (.define name method path)).draft.build.resolve name = .ok ⟨method, path⟩ := by
  have hadd := addition_of_taken h
  have hconsistent := hadd.consistent hdesk
  generalize (desk.attempt (.define name method path)).draft = d at hadd hconsistent
  rcases hadd with ⟨named, unused, -⟩
  refine CommandTable.resolve_eq_ok_iff.2 ⟨_, named, hconsistent.template?_of_own ?_⟩
  rw [List.lookup_append, unused.1, Option.none_or, List.lookup_cons_self]

/-- **A command that was given an alias resolves to what its target resolves to.** -/
theorem resolve_of_aliased {desk : Desk} (hdesk : desk.draft.Consistent) {name target : Value}
    (h : (perform (.addAlias name target) desk).1 = .ok ()) :
    ∃ t, (desk.attempt (.addAlias name target)).draft.build.resolve target = .ok t
      ∧ (desk.attempt (.addAlias name target)).draft.build.resolve name = .ok t := by
  have hadd := addition_of_taken h
  have hconsistent := hadd.consistent hdesk
  generalize (desk.attempt (.addAlias name target)).draft = d at hadd hconsistent
  cases hadd with
  | @aliasing _ _ c e t named led unused defined =>
    refine ⟨t, CommandTable.resolve_eq_ok_iff.2 ⟨e, led, hconsistent.template?_of_own defined⟩,
      CommandTable.resolve_eq_ok_iff.2 ⟨c, named, template?_of_alias ?_ defined⟩⟩
    rw [List.lookup_append, unused.2, Option.none_or, List.lookup_cons_self]

end Draft

namespace Workshop

/-! ## Tables built on the way -/

/-- Building leaves the desk alone: what lies on it comes from calls. -/
theorem exists_desk_run (w : Workshop) (steps : List Step) :
    ∃ calls, (w.run steps).desk = w.desk.attemptAll calls := by
  induction steps generalizing w with
  | nil => exact ⟨[], rfl⟩
  | cons s steps ih =>
    obtain ⟨calls, hcalls⟩ := ih (w.step s)
    cases s with
    | call call => exact ⟨call :: calls, hcalls⟩
    | build => exact ⟨calls, hcalls⟩

/-- **Tables that were built stay as they are**, and those built later come from drafts that go on
from the one at hand. -/
theorem exists_built_run (w : Workshop) (steps : List Step) :
    ∃ later, (w.run steps).built = w.built ++ later
      ∧ ∀ table ∈ later, ∃ calls, table = (w.desk.attemptAll calls).draft.build := by
  induction steps generalizing w with
  | nil => exact ⟨[], (List.append_nil w.built).symm, fun table h => absurd h List.not_mem_nil⟩
  | cons s steps ih =>
    obtain ⟨later, hbuilt, hlater⟩ := ih (w.step s)
    cases s with
    | call call =>
      refine ⟨later, hbuilt, fun table htable => ?_⟩
      obtain ⟨calls, hcalls⟩ := hlater table htable
      exact ⟨call :: calls, hcalls⟩
    | build =>
      refine ⟨w.desk.draft.build :: later, hbuilt.trans (List.append_assoc _ _ _), ?_⟩
      exact List.forall_mem_cons.2 ⟨⟨[], rfl⟩, hlater⟩

/-- Whatever the steps, the draft on the desk is consistent. -/
theorem consistent_run (steps : List Step) : (empty.run steps).desk.draft.Consistent := by
  obtain ⟨calls, hcalls⟩ := exists_desk_run empty steps
  rw [hcalls]
  exact Draft.consistent_attemptAll Draft.consistent_empty calls

/-- Steps behind a call go on from the draft that the call leaves. -/
theorem extends_run_call (first rest : List Step) (call : Draft.Call) :
    ((empty.run first).desk.attempt call).draft.Extends
      (empty.run (first ++ .call call :: rest)).desk.draft := by
  rw [run_append, run_cons]
  obtain ⟨calls, hcalls⟩ := exists_desk_run ((empty.run first).step (.call call)) rest
  rw [hcalls]
  exact Draft.extends_attemptAll _ calls

/-- **Resolution in tables that are built along a run.**  After any steps, calls that were refused
among them, the table that is built next stays as it is while the run goes on; each table built
later supports all that it supports, and resolves it to the same templates.  All ways of asking it
for a name agree.  A command that was defined resolves to the template of its definition, and one
that was given an alias to what the target of the alias resolves to.  A table of any entries at all,
not only a built one, fails to resolve a command it supports exactly when the alias of the command
leads to a command without a template of its own. -/
theorem resolution_along_any_run (before after : List Step) (anyTable : CommandTable) :
    let w := empty.run before
    let table := w.desk.draft.build
    (∃ later, (empty.run (before ++ .build :: after)).built = w.built ++ table :: later
      ∧ ∀ table' ∈ later, ∀ name,
        (table.supports name = .ok true → table'.supports name = .ok true)
          ∧ ∀ t, table.resolve name = .ok t → table'.resolve name = .ok t)
    ∧ (∀ name label, name.label = .ok label → table.Answers name label)
    ∧ (∀ first rest name method path,
        before = first ++ .call (.define name method path) :: rest →
        (Draft.perform (.define name method path) (empty.run first).desk).1 = .ok () →
          table.resolve name = .ok ⟨method, path⟩)
    ∧ (∀ first rest name target, before = first ++ .call (.addAlias name target) :: rest →
        (Draft.perform (.addAlias name target) (empty.run first).desk).1 = .ok () →
          ∃ t, table.resolve target = .ok t ∧ table.resolve name = .ok t)
    ∧ ∀ name c, name.designated? = .ok (some c) → anyTable.supports name = .ok true →
        ((∃ fault, anyTable.resolve name = .error fault) ↔ anyTable.Dangling c)
          ∧ ∀ fault, anyTable.resolve name = .error fault → fault = .unsupported c.name := by
  intro w table
  have hw : w.desk.draft.Consistent := consistent_run before
  refine ⟨?_, fun name label hlabel => hw.answers hlabel, ?_, ?_, fun name c hname hsupports => ?_⟩
  · obtain ⟨later, hbuilt, hlater⟩ := exists_built_run (w.step .build) after
    refine ⟨later, ?_, fun table' htable' name => ?_⟩
    · rw [run_append, run_cons, hbuilt]
      exact List.append_assoc _ _ _
    · obtain ⟨calls, rfl⟩ := hlater table' htable'
      have hextends := Draft.extends_attemptAll w.desk calls
      have hconsistent := Draft.consistent_attemptAll hw calls
      exact ⟨hextends.supports_eq_ok hw hconsistent, fun t => hextends.resolve_eq_ok hconsistent⟩
  · rintro first rest name method path rfl htaken
    exact (extends_run_call first rest _).resolve_eq_ok hw
      (Draft.resolve_of_defined (consistent_run first) htaken)
  · rintro first rest name target rfl htaken
    obtain ⟨t, htarget, hname⟩ := Draft.resolve_of_aliased (consistent_run first) htaken
    have hextends := extends_run_call first rest (.addAlias name target)
    exact ⟨t, hextends.resolve_eq_ok hw htarget, hextends.resolve_eq_ok hw hname⟩
  · have hfails := @CommandTable.resolve_eq_error_iff anyTable name c hname hsupports
    exact ⟨⟨fun ⟨fault, h⟩ => (hfails.1 h).1, fun h => ⟨_, hfails.2 ⟨h, rfl⟩⟩⟩,
      fun fault h => (hfails.1 h).2⟩

end Workshop

end BrowserRemote
