import BrowserRemote.CommandTable.History

/-!
# Proofs/CommandTable/Consistency — every run of drafting calls keeps a draft consistent

    call refused ──▸ the desk as it was          call taken ──▸ one entry more, one record more

All checks of a call come before its first change, so a call that is refused leaves nothing behind,
and one that is taken adds what `Addition` allows (`refused_or_taken`).  Each addition keeps the
draft consistent (`Addition.consistent`); runs follow by induction on the calls.
-/

namespace BrowserRemote.Draft

/-! ## What the checks of a call promise -/

/-- The command has neither a template nor an alias yet. -/
def Unused (d : Draft) (c : Command) : Prop :=
  d.templates.lookup c = none ∧ d.aliases.lookup c = none

theorem designated?_of_required {name : Value} {c : Command} (h : required name = .ok c) :
    name.designated? = .ok (some c) := by
  obtain ⟨found, hfound, h⟩ := ok_of_bind h
  rcases found with _ | d
  · obtain ⟨label, -, h⟩ := ok_of_bind h
    exact absurd h nofun
  · rw [hfound, Except.ok.inj h]

theorem unused_of_checkUnused {d : Draft} {c : Command} {label : String}
    (h : d.checkUnused c label = .ok ()) : d.Unused c := by
  unfold checkUnused at h
  split at h
  · exact absurd h nofun
  · next ht =>
    split at h
    · exact absurd h nofun
    · next ha => exact ⟨Option.not_isSome_iff_eq_none.1 ht, Option.not_isSome_iff_eq_none.1 ha⟩

theorem checkedTemplate_eq_ok {label : String} {method path : Value} {t : Template}
    (h : checkedTemplate label method path = .ok t) :
    ∃ m ∈ methods, method = .str m ∧ t = ⟨.str m, path⟩ := by
  unfold checkedTemplate at h
  split at h
  · next m =>
    split at h
    · next hm => exact ⟨m, hm, rfl, (Except.ok.inj h).symm⟩
    · exact absurd h nofun
  · obtain ⟨text, -, h⟩ := ok_of_bind h
    exact absurd h nofun

/-- **What a definition that is taken adds**: a template with one of the three methods, for an
unused command. -/
theorem definition_eq_ok {d : Draft} {name method path : Value} {label : String} {c : Command}
    {t : Template} (h : d.definition name method path = .ok (label, c, t)) :
    name.designated? = .ok (some c) ∧ d.Unused c
      ∧ ∃ m ∈ methods, method = .str m ∧ t = ⟨.str m, path⟩ := by
  obtain ⟨c', hc, h⟩ := ok_of_bind h
  obtain ⟨label', -, h⟩ := ok_of_bind h
  obtain ⟨_, hunused, h⟩ := ok_of_bind h
  obtain ⟨t', ht, h⟩ := ok_of_bind h
  obtain ⟨rfl, rfl, rfl⟩ : label' = label ∧ c' = c ∧ t' = t := by
    simpa only [Prod.mk.injEq] using Except.ok.inj h
  exact ⟨designated?_of_required hc, unused_of_checkUnused hunused, checkedTemplate_eq_ok ht⟩

/-- **What an alias that is taken adds**: an unused command, led to one that has a template. -/
theorem aliasing_eq_ok {d : Draft} {name target : Value} {labels : String × String}
    {c e : Command} (h : d.aliasing name target = .ok (labels, c, e)) :
    name.designated? = .ok (some c) ∧ target.designated? = .ok (some e) ∧ d.Unused c
      ∧ ∃ t, d.templates.lookup e = some t := by
  obtain ⟨c', hc, h⟩ := ok_of_bind h
  obtain ⟨label, -, h⟩ := ok_of_bind h
  obtain ⟨e', he, h⟩ := ok_of_bind h
  obtain ⟨_, hunused, h⟩ := ok_of_bind h
  obtain ⟨targetLabel, -, h⟩ := ok_of_bind h
  split at h
  · next hled =>
    obtain ⟨-, rfl, rfl⟩ : (label, targetLabel) = labels ∧ c' = c ∧ e' = e := by
      simpa only [Prod.mk.injEq] using Except.ok.inj h
    exact ⟨designated?_of_required hc, designated?_of_required he, unused_of_checkUnused hunused,
      Option.isSome_iff_exists.1 hled⟩
  · exact absurd h nofun

/-! ## What a call does to a desk -/

/-- **What a call may add to a draft**: one entry, at the end of one of its tables. -/
inductive Addition (d : Draft) : Call → Draft → Prop
  | definition {name path : Value} {c : Command} {m : String}
      (named : name.designated? = .ok (some c)) (unused : d.Unused c) (method : m ∈ methods) :
      Addition d (.define name (.str m) path)
        ⟨d.templates ++ [(c, ⟨.str m, path⟩)], d.aliases⟩
  | aliasing {name target : Value} {c e : Command} {t : Template}
      (named : name.designated? = .ok (some c)) (led : target.designated? = .ok (some e))
      (unused : d.Unused c) (defined : d.templates.lookup e = some t) :
      Addition d (.addAlias name target) ⟨d.templates, d.aliases ++ [(c, e)]⟩

/-- The path of a definition is a text; an alias has none. -/
def Call.HasTextPath : Call → Prop
  | .define _ _ path => ∃ s, path = .str s
  | .addAlias _ _ => True

/-- The outcome of a call, with the desk it leaves, when it is refused. -/
def Refused (call : Call) (desk : Desk) : Prop :=
  ∃ fault, perform call desk = (.error fault, desk)

/-- The outcome of a call, with the desk it leaves, when it is taken.  The record it writes can be
shown if the path is a text. -/
def Taken (call : Call) (desk : Desk) : Prop :=
  ∃ d record, desk.draft.Addition call d
    ∧ perform call desk = (.ok (), ⟨d, desk.records ++ [record]⟩)
    ∧ (call.HasTextPath → ∃ line, record.text = .ok line)

theorem taken_of_definition {name method path : Value} {desk : Desk} {label : String} {c : Command}
    {t : Template} (h : desk.draft.definition name method path = .ok (label, c, t)) :
    Taken (.define name method path) desk := by
  obtain ⟨hname, hunused, m, hm, rfl, rfl⟩ := definition_eq_ok h
  refine ⟨_, definitionRecord label ⟨.str m, path⟩, .definition hname hunused hm, ?_, ?_⟩
  · rw [perform, define, Stateful.get_bind, Stateful.lift_bind, h,
      ← setEntry_of_lookup_eq_none _ hunused.1]
    rfl
  · rintro ⟨s, rfl⟩
    exact ⟨_, rfl⟩

theorem taken_of_aliasing {name target : Value} {desk : Desk} {labels : String × String}
    {c e : Command} (h : desk.draft.aliasing name target = .ok (labels, c, e)) :
    Taken (.addAlias name target) desk := by
  obtain ⟨hname, htarget, hunused, t, ht⟩ := aliasing_eq_ok h
  refine ⟨_, aliasRecord labels.1 labels.2, .aliasing hname htarget hunused ht, ?_, ?_⟩
  · rw [perform, addAlias, Stateful.get_bind, Stateful.lift_bind, h,
      ← setEntry_of_lookup_eq_none _ hunused.2]
    rfl
  · exact fun _ => ⟨_, rfl⟩

theorem define_refused_or_taken (name method path : Value) (desk : Desk) :
    Refused (.define name method path) desk ∨ Taken (.define name method path) desk := by
  rcases h : desk.draft.definition name method path with fault | ⟨label, c, t⟩
  · refine Or.inl ⟨fault, ?_⟩
    rw [perform, define, Stateful.get_bind, Stateful.lift_bind, h]
  · exact Or.inr (taken_of_definition h)

theorem addAlias_refused_or_taken (name target : Value) (desk : Desk) :
    Refused (.addAlias name target) desk ∨ Taken (.addAlias name target) desk := by
  rcases h : desk.draft.aliasing name target with fault | ⟨labels, c, e⟩
  · refine Or.inl ⟨fault, ?_⟩
    rw [perform, addAlias, Stateful.get_bind, Stateful.lift_bind, h]
  · exact Or.inr (taken_of_aliasing h)

/-- **A call is refused and changes nothing, or it is taken and adds one entry.** -/
theorem refused_or_taken (call : Call) (desk : Desk) : Refused call desk ∨ Taken call desk := by
  rcases call with ⟨name, method, path⟩ | ⟨name, target⟩
  · exact define_refused_or_taken name method path desk
  · exact addAlias_refused_or_taken name target desk

/-! ## Consistency, one call and a run of calls -/

/-- **An addition keeps a draft consistent**: it takes an unused command, so the tables stay apart,
and it leads an alias only to a command that has a template. -/
theorem Addition.consistent {d d' : Draft} {call : Call} (h : d.Addition call d')
    (hd : d.Consistent) : d'.Consistent := by
  rcases h with ⟨-, unused, method⟩ | ⟨-, -, unused, defined⟩
  case definition c m path _ =>
    refine ⟨fun x t e hx he => ?_, fun x e he => ?_, fun x t hx => ?_⟩
    · rcases List.mem_append.1 hx with hx | hx
      · exact hd.apart x t e hx he
      · obtain ⟨rfl, -⟩ := Prod.mk.inj (List.mem_singleton.1 hx)
        exact not_mem_of_lookup unused.2 e he
    · obtain ⟨t, ht⟩ := hd.led x e he
      exact ⟨t, List.mem_append_left _ ht⟩
    · rcases List.mem_append.1 hx with hx | hx
      · exact hd.methods x t hx
      · obtain ⟨-, rfl⟩ := Prod.mk.inj (List.mem_singleton.1 hx)
        exact ⟨_, method, rfl⟩
  case aliasing c target t =>
    refine ⟨fun x t e hx he => ?_, fun x e he => ?_, hd.methods⟩
    · rcases List.mem_append.1 he with he | he
      · exact hd.apart x t e hx he
      · obtain ⟨rfl, -⟩ := Prod.mk.inj (List.mem_singleton.1 he)
        exact not_mem_of_lookup unused.1 t hx
    · rcases List.mem_append.1 he with he | he
      · exact hd.led x e he
      · obtain ⟨-, rfl⟩ := Prod.mk.inj (List.mem_singleton.1 he)
        exact ⟨_, mem_of_lookup defined⟩

/-- One call keeps the draft on a desk consistent, whatever becomes of the call. -/
theorem consistent_attempt {desk : Desk} (h : desk.draft.Consistent) (call : Call) :
    (desk.attempt call).draft.Consistent := by
  rcases refused_or_taken call desk with ⟨fault, hcall⟩ | ⟨d, record, hadd, hcall, -⟩
  · rw [Desk.attempt, hcall]
    exact h
  · rw [Desk.attempt, hcall]
    exact hadd.consistent h

/-- **A run of calls keeps the draft on a desk consistent.** -/
theorem consistent_attemptAll {desk : Desk} (h : desk.draft.Consistent) (calls : List Call) :
    (desk.attemptAll calls).draft.Consistent := by
  induction calls generalizing desk with
  | nil => exact h
  | cons call calls ih => exact ih (consistent_attempt h call)

/-- Runs follow one another, if no call of the first one is refused. -/
theorem performAll_append (calls more : List Call) :
    performAll (calls ++ more) = performAll calls >>= fun _ => performAll more := by
  induction calls with
  | nil => exact (pure_bind () fun _ => performAll more).symm
  | cons call calls ih => rw [List.cons_append, performAll, performAll, ih, bind_assoc]

/-- Calls that are all taken leave the desk that they leave one by one. -/
theorem desk_of_performAll_eq_ok {calls : List Call} : ∀ {desk desk' : Desk},
    performAll calls desk = (.ok (), desk') → desk' = desk.attemptAll calls := by
  induction calls with
  | nil =>
    intro desk desk' h
    exact (Prod.mk.inj h).2.symm
  | cons call calls ih =>
    intro desk desk' h
    rw [performAll, Stateful.bind_apply] at h
    rw [Desk.attemptAll_cons, Desk.attempt]
    rcases hcall : perform call desk with ⟨fault | _, between⟩
    · rw [hcall] at h
      exact absurd (Prod.mk.inj h).1 nofun
    · rw [hcall] at h
      exact ih h

/-- **A draft made by calls that are all taken is consistent.** -/
theorem consistent_of_after {d d' : Draft} {calls : List Call} (hd : d.Consistent)
    (h : (d.after (performAll calls)).outcome = .ok d') : d'.Consistent := by
  unfold after at h
  split at h
  · next desk hrun =>
    obtain rfl : desk.draft = d' := Except.ok.inj h
    rw [desk_of_performAll_eq_ok hrun]
    exact consistent_attemptAll hd calls
  · exact absurd h nofun

/-- An alias leads to no alias: aliases make no chains and no cycles. -/
theorem Consistent.not_chained {d : Draft} (h : d.Consistent) {c e : Command}
    (hc : (c, e) ∈ d.aliases) (f : Command) : (e, f) ∉ d.aliases := by
  obtain ⟨t, ht⟩ := h.led c e hc
  exact h.apart e t f ht

/-- **Drafting from scratch**: after any calls the tables fit together and aliases make no chains;
the next call is refused and leaves the desk as it was, or it is taken, and then one of the tables
has one entry more at its end and one record more is written. -/
theorem consistent_after_any_calls (calls : List Call) (call : Call) :
    let desk := Desk.empty.attemptAll calls
    desk.draft.Consistent
      ∧ (∀ c e, (c, e) ∈ desk.draft.aliases → ∀ f, (e, f) ∉ desk.draft.aliases)
      ∧ (Refused call desk ∨ Taken call desk) := by
  intro desk
  have hdesk : desk.draft.Consistent := consistent_attemptAll consistent_empty calls
  exact ⟨hdesk, fun c e hc => hdesk.not_chained hc, refused_or_taken call desk⟩

end BrowserRemote.Draft
