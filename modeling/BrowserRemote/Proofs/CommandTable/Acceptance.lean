import BrowserRemote.Proofs.CommandTable.Snapshots
import Mathlib.Data.List.Induction

/-!
# Proofs/CommandTable/Acceptance — which calls are accepted, and in which orders

    calls fit together ◂──▸ no call is refused ──▸ the draft is what the calls ask for
            │                                                      │
        another order, targets first                      the same look-ups
            ▼                                                      ▼
    calls fit together ◂──▸ no call is refused ──▸ the draft is what the calls ask for

A call is taken by the draft of the calls before it exactly when it may follow them
(`addition_asked_iff`), and calls fit together exactly when each may follow those before it
(`fit_concat_iff`); both sides grow by one call at the end.  Of the conditions only the order of
definitions and aliases depends on the order of the calls (`Fit.of_perm`).  No command comes twice
in the tables, so look-ups do not depend on it either.
-/

namespace BrowserRemote

namespace CommandTable

variable {t t' : CommandTable}

/-- Tables that have the same templates resolve every name alike. -/
theorem resolve_congr (h : ∀ c, t.template? c = t'.template? c) (name : Value) :
    t.resolve name = t'.resolve name := by
  rw [resolve, resolve, funext h]

/-- Tables whose entries are looked up alike list the same commands and resolve every name alike. -/
theorem answer_alike (htemplates : ∀ c, t.templates.lookup c = t'.templates.lookup c)
    (haliases : ∀ c, t.aliases.lookup c = t'.aliases.lookup c) :
    t.commands = t'.commands ∧ ∀ name, t.resolve name = t'.resolve name := by
  have hhas : t.has = t'.has := funext fun c => by rw [has, has, htemplates, haliases]
  refine ⟨by rw [commands, commands, hhas], resolve_congr fun c => ?_⟩
  rw [template?, template?, htemplates, haliases]

end CommandTable

namespace Draft

/-! ## What calls ask for -/

section Asked

variable {calls : List Call} {call : Call} {name target : Value} {c e : Command} {t : Template}

theorem Call.definition?_define (hname : name.designated? = .ok (some c)) (method path : Value) :
    (define name method path).definition? = some (c, ⟨method, path⟩) := by
  rw [definition?, hname]

theorem Call.alias?_addAlias (hname : name.designated? = .ok (some c))
    (htarget : target.designated? = .ok (some e)) :
    (addAlias name target).alias? = some (c, e) := by
  rw [alias?, hname, htarget]

theorem Call.definition?_eq_some_iff : call.definition? = some (c, t) ↔
    ∃ name, call = .define name t.method t.path ∧ name.designated? = .ok (some c) := by
  constructor
  · intro h
    unfold definition? at h
    split at h
    · next name method path =>
      split at h
      · next hname =>
        obtain ⟨rfl, rfl⟩ := Prod.mk.inj (Option.some.inj h)
        exact ⟨name, rfl, hname⟩
      · cases h
    · cases h
  · rintro ⟨name, rfl, hname⟩
    exact definition?_define hname _ _

theorem Call.alias?_eq_some_iff : call.alias? = some (c, e) ↔
    ∃ name target, call = .addAlias name target ∧ name.designated? = .ok (some c)
      ∧ target.designated? = .ok (some e) := by
  constructor
  · intro h
    unfold alias? at h
    split at h
    · cases h
    · next name target =>
      split at h
      · next hname htarget =>
        obtain ⟨rfl, rfl⟩ := Prod.mk.inj (Option.some.inj h)
        exact ⟨name, target, rfl, hname, htarget⟩
      · cases h
  · rintro ⟨name, target, rfl, hname, htarget⟩
    exact alias?_addAlias hname htarget

theorem mem_templates_asked : (c, t) ∈ (asked calls).templates ↔
    ∃ name, .define name t.method t.path ∈ calls ∧ name.designated? = .ok (some c) := by
  rw [asked, List.mem_filterMap]
  constructor
  · rintro ⟨call, hcall, h⟩
    obtain ⟨name, rfl, hname⟩ := Call.definition?_eq_some_iff.1 h
    exact ⟨name, hcall, hname⟩
  · rintro ⟨name, hcall, hname⟩
    exact ⟨_, hcall, Call.definition?_define hname _ _⟩

theorem mem_aliases_asked : (c, e) ∈ (asked calls).aliases ↔
    ∃ name target, .addAlias name target ∈ calls ∧ name.designated? = .ok (some c)
      ∧ target.designated? = .ok (some e) := by
  rw [asked, List.mem_filterMap]
  constructor
  · rintro ⟨call, hcall, h⟩
    obtain ⟨name, target, rfl, hname, htarget⟩ := Call.alias?_eq_some_iff.1 h
    exact ⟨name, target, hcall, hname, htarget⟩
  · rintro ⟨name, target, hcall, hname, htarget⟩
    exact ⟨_, hcall, Call.alias?_addAlias hname htarget⟩

/-- A command has a template in the draft that calls ask for when one of them defines it. -/
theorem exists_template_asked_iff :
    (∃ t, (asked calls).templates.lookup e = some t) ↔ Defines calls e := by
  rw [← Option.ne_none_iff_exists', Ne, lookup_eq_none_iff, Classical.not_forall_not]
  constructor
  · rintro ⟨t, ht⟩
    obtain ⟨name, hcall, hname⟩ := mem_templates_asked.1 ht
    exact ⟨name, _, _, hcall, hname⟩
  · rintro ⟨name, method, path, hcall, hname⟩
    exact ⟨⟨method, path⟩, mem_templates_asked.2 ⟨name, hcall, hname⟩⟩

/-- A command is unused in the draft that calls ask for when none of them names it; each target must
designate a command, or its alias would ask for nothing. -/
theorem unused_asked_iff (htargets : ∀ name target, .addAlias name target ∈ calls →
    ∃ e, target.designated? = .ok (some e)) :
    (asked calls).Unused c ↔ ∀ call ∈ calls, call.name.designated? ≠ .ok (some c) := by
  rw [Unused, lookup_eq_none_iff, lookup_eq_none_iff]
  constructor
  · rintro ⟨htemplates, haliases⟩ call hcall hname
    cases call with
    | define name method path =>
      exact htemplates ⟨method, path⟩ (mem_templates_asked.2 ⟨name, hcall, hname⟩)
    | addAlias name target =>
      obtain ⟨e, he⟩ := htargets name target hcall
      exact haliases e (mem_aliases_asked.2 ⟨name, target, hcall, hname, he⟩)
  · refine fun h => ⟨fun t ht => ?_, fun e he => ?_⟩
    · obtain ⟨name, hcall, hname⟩ := mem_templates_asked.1 ht
      exact h _ hcall hname
    · obtain ⟨name, target, hcall, hname, -⟩ := mem_aliases_asked.1 he
      exact h _ hcall hname

end Asked

/-! ## One call more -/

/-- **A call may follow calls made before it**: it names a command that none of them names, with a
method if it defines the command, or else with a target that one of them defines. -/
inductive Follows (before : List Call) : Call → Prop
  | definition {name path : Value} {c : Command} {m : String}
      (named : name.designated? = .ok (some c))
      (fresh : ∀ call ∈ before, call.name.designated? ≠ .ok (some c)) (method : m ∈ methods) :
      Follows before (.define name (.str m) path)
  | aliasing {name target : Value} {c e : Command} (named : name.designated? = .ok (some c))
      (fresh : ∀ call ∈ before, call.name.designated? ≠ .ok (some c))
      (led : target.designated? = .ok (some e)) (defined : Defines before e) :
      Follows before (.addAlias name target)

section Calls

variable {calls before after : List Call} {call : Call} {d : Draft}

theorem TargetsFirst.of_append (h : TargetsFirst (before ++ after)) : TargetsFirst before := by
  rintro first name target rest rfl
  exact h first name target (rest ++ after) (List.append_assoc first _ after)

/-- The target of every alias designates a command. -/
theorem TargetsFirst.exists_designated? (h : TargetsFirst calls) {name target : Value}
    (hcall : .addAlias name target ∈ calls) : ∃ e, target.designated? = .ok (some e) := by
  obtain ⟨first, rest, hsplit⟩ := List.append_of_mem hcall
  obtain ⟨e, he, -⟩ := h first name target rest hsplit
  exact ⟨e, he⟩

theorem Fit.of_append (h : Fit (before ++ after)) : Fit before where
  named call hcall := h.named call (List.mem_append_left after hcall)
  methods name method path hcall := h.methods name method path (List.mem_append_left after hcall)
  distinct := (List.pairwise_append.1 h.distinct).1
  targetsFirst := h.targetsFirst.of_append

/-- The last of calls that fit together may follow the others. -/
theorem Fit.follows (h : Fit (before ++ [call])) : Follows before call := by
  have hlast : call ∈ before ++ [call] := List.mem_append_right before List.mem_cons_self
  obtain ⟨c, hc⟩ := h.named call hlast
  have hfresh : ∀ b ∈ before, b.name.designated? ≠ .ok (some c) := fun b hb =>
    hc ▸ (List.pairwise_append.1 h.distinct).2.2 b hb call List.mem_cons_self
  cases call with
  | define name method path =>
    obtain ⟨m, hm, rfl⟩ := h.methods name method path hlast
    exact .definition hc hfresh hm
  | addAlias name target =>
    obtain ⟨e, he, hdefined⟩ := h.targetsFirst before name target [] rfl
    exact .aliasing hc hfresh he hdefined

theorem Fit.concat (h : Fit before) (hcall : Follows before call) : Fit (before ++ [call]) := by
  obtain ⟨c, hc, hfresh⟩ : ∃ c, call.name.designated? = .ok (some c)
      ∧ ∀ b ∈ before, b.name.designated? ≠ .ok (some c) := by
    rcases hcall with ⟨named, fresh, -⟩ | ⟨named, fresh, -, -⟩
    · exact ⟨_, named, fresh⟩
    · exact ⟨_, named, fresh⟩
  refine ⟨fun b hb => ?_, fun name method path hb => ?_, ?_,
    fun first name target rest hsplit => ?_⟩
  · rcases List.mem_append.1 hb with hb | hb
    · exact h.named b hb
    · obtain rfl := List.mem_singleton.1 hb
      exact ⟨c, hc⟩
  · rcases List.mem_append.1 hb with hb | hb
    · exact h.methods name method path hb
    · obtain rfl := List.mem_singleton.1 hb
      cases hcall with
      | definition _ _ hm => exact ⟨_, hm, rfl⟩
  · refine List.pairwise_append.2 ⟨h.distinct, List.pairwise_singleton _ _,
      fun b hb last hlast => ?_⟩
    obtain rfl := List.mem_singleton.1 hlast
    exact hc ▸ hfresh b hb
  · -- the alias is the last call, or it stands among the others
    rcases List.eq_nil_or_concat rest with rfl | ⟨rest, last, rfl⟩
    · obtain ⟨rfl, hlast⟩ := List.append_inj' hsplit rfl
      obtain rfl := List.head_eq_of_cons_eq hlast
      cases hcall with
      | aliasing _ _ led defined => exact ⟨_, led, defined⟩
    · rw [List.concat_eq_append, ← List.cons_append, ← List.append_assoc] at hsplit
      exact h.targetsFirst first name target rest (List.append_inj' hsplit rfl).1

/-- **Calls fit together when the last one may follow the others**, which fit together. -/
theorem fit_concat_iff : Fit (before ++ [call]) ↔ Fit before ∧ Follows before call :=
  ⟨fun h => ⟨h.of_append, h.follows⟩, fun h => h.1.concat h.2⟩

theorem fit_nil : Fit [] where
  named _ h := absurd h List.not_mem_nil
  methods _ _ _ h := absurd h List.not_mem_nil
  distinct := .nil
  targetsFirst before _ _ after h :=
    absurd h.symm (List.append_ne_nil_of_right_ne_nil before (List.cons_ne_nil _ after))

/-- What is added to the draft that calls ask for is what the next call asks for. -/
theorem Addition.eq_asked (h : (asked before).Addition call d) : d = asked (before ++ [call]) := by
  rw [asked, List.filterMap_append, List.filterMap_append]
  rcases h with ⟨named, -, -⟩ | ⟨named, led, -, -⟩
  · rw [List.filterMap_cons_some (Call.definition?_define named _ _), List.filterMap_nil]
    exact congrArg (Draft.mk _) (List.append_nil _).symm
  · rw [List.filterMap_cons_some (Call.alias?_addAlias named led), List.filterMap_nil]
    exact congrArg (Draft.mk · _) (List.append_nil _).symm

/-- **The draft of calls that fit together takes what may follow them.** -/
theorem addition_asked_iff (hbefore : Fit before) :
    (∃ d, (asked before).Addition call d) ↔ Follows before call := by
  have hunused (c : Command) := @unused_asked_iff before c fun _ _ =>
    hbefore.targetsFirst.exists_designated?
  constructor
  · rintro ⟨d, ⟨named, unused, method⟩ | ⟨named, led, unused, defined⟩⟩
    · exact .definition named ((hunused _).1 unused) method
    · exact .aliasing named ((hunused _).1 unused) led (exists_template_asked_iff.1 ⟨_, defined⟩)
  · rintro (⟨named, fresh, method⟩ | ⟨named, fresh, led, defined⟩)
    · exact ⟨_, .definition named ((hunused _).2 fresh) method⟩
    · obtain ⟨t, ht⟩ := exists_template_asked_iff.2 defined
      exact ⟨_, .aliasing named led ((hunused _).2 fresh) ht⟩

/-! ## Runs of calls -/

theorem required_of_designated? {name : Value} {c : Command}
    (h : name.designated? = .ok (some c)) : required name = .ok c := by
  rw [required, h]
  rfl

theorem checkUnused_of_unused {c : Command} (h : d.Unused c) (label : String) :
    d.checkUnused c label = .ok () := by
  rw [checkUnused, h.1, h.2]
  rfl

/-- **What may be added is taken.** -/
theorem taken_of_addition {desk : Desk} (h : desk.draft.Addition call d) : Taken call desk := by
  cases h with
  | @definition name path c m named unused method =>
    have hdefinition : desk.draft.definition name (.str m) path
        = .ok (c.name, c, ⟨.str m, path⟩) := by
      have htemplate : checkedTemplate c.name (.str m) path = .ok ⟨.str m, path⟩ := if_pos method
      rw [definition, required_of_designated? named, Value.label_of_designated? named]
      change (desk.draft.checkUnused c c.name >>= fun _ => checkedTemplate c.name (.str m) path >>=
        fun t => .ok (c.name, c, t)) = _
      rw [checkUnused_of_unused unused, htemplate]
      rfl
    exact taken_of_definition hdefinition
  | @aliasing name target c e t named led unused defined =>
    have haliasing : desk.draft.aliasing name target = .ok ((c.name, e.name), c, e) := by
      rw [aliasing, required_of_designated? named, Value.label_of_designated? named,
        required_of_designated? led, Value.label_of_designated? led]
      change (desk.draft.checkUnused c c.name >>= fun _ =>
        if (desk.draft.templates.lookup e).isSome then .ok ((c.name, e.name), c, e)
        else .error (.undefinedTarget c.name e.name)) = _
      rw [checkUnused_of_unused unused, defined]
      rfl
    exact taken_of_aliasing haliasing

/-- A call that is not refused adds what it may add, and one record. -/
theorem addition_of_perform_eq_ok {desk between : Desk}
    (h : perform call between = (.ok (), desk)) : between.draft.Addition call desk.draft
      ∧ ∃ record, desk.records = between.records ++ [record]
        ∧ (call.HasTextPath → ∃ line, record.text = .ok line) := by
  rcases refused_or_taken call between with ⟨fault, hcall⟩ | ⟨d, record, hadd, hcall, hline⟩
  · exact absurd (congrArg Prod.fst (hcall.symm.trans h)) nofun
  · obtain rfl : ⟨d, between.records ++ [record]⟩ = desk := congrArg Prod.snd (hcall.symm.trans h)
    exact ⟨hadd, record, rfl, hline⟩

/-- No call is refused, the last one included. -/
theorem performAll_concat_eq_ok_iff {start desk : Desk} :
    performAll (calls ++ [call]) start = (.ok (), desk) ↔
      ∃ between, performAll calls start = (.ok (), between)
        ∧ perform call between = (.ok (), desk) := by
  have hlast : performAll [call] = perform call := bind_pure_unit
  rw [performAll_append, hlast, Stateful.bind_apply]
  rcases performAll calls start with ⟨fault | _, between⟩
  · exact ⟨nofun, nofun⟩
  · constructor
    · exact fun h => ⟨between, rfl, h⟩
    · rintro ⟨_, ⟨⟩, h⟩
      exact h

/-- **Calls that are not refused draft what they ask for**, and write records that can be shown if
the paths are texts. -/
theorem of_performAll_eq_ok : ∀ {desk : Desk}, performAll calls Desk.empty = (.ok (), desk) →
    desk.draft = asked calls
      ∧ ((∀ call ∈ calls, call.HasTextPath) → ∀ r ∈ desk.records, ∃ line, r.text = .ok line) := by
  induction calls using List.reverseRecOn with
  | nil =>
    rintro desk ⟨⟩
    exact ⟨rfl, fun _ r hr => absurd hr List.not_mem_nil⟩
  | append_singleton calls call ih =>
    intro desk h
    obtain ⟨between, hcalls, hcall⟩ := performAll_concat_eq_ok_iff.1 h
    obtain ⟨hdraft, hlines⟩ := ih hcalls
    obtain ⟨hadd, record, hrecords, hline⟩ := addition_of_perform_eq_ok hcall
    refine ⟨(hdraft ▸ hadd).eq_asked, fun htext r hr => ?_⟩
    rw [hrecords] at hr
    obtain ⟨htexts, htext⟩ := List.forall_mem_append.1 htext
    rcases List.mem_append.1 hr with hr | hr
    · exact hlines htexts r hr
    · obtain rfl := List.mem_singleton.1 hr
      exact hline (htext call List.mem_cons_self)

/-- **No call is refused exactly when the calls fit together.** -/
theorem exists_performAll_eq_ok_iff :
    (∃ desk, performAll calls Desk.empty = (.ok (), desk)) ↔ Fit calls := by
  induction calls using List.reverseRecOn with
  | nil => exact ⟨fun _ => fit_nil, fun _ => ⟨Desk.empty, rfl⟩⟩
  | append_singleton calls call ih =>
    rw [fit_concat_iff]
    constructor
    · rintro ⟨desk, h⟩
      obtain ⟨between, hcalls, hcall⟩ := performAll_concat_eq_ok_iff.1 h
      have hfit : Fit calls := ih.1 ⟨between, hcalls⟩
      have hadd := (addition_of_perform_eq_ok hcall).1
      rw [(of_performAll_eq_ok hcalls).1] at hadd
      exact ⟨hfit, (addition_asked_iff hfit).1 ⟨_, hadd⟩⟩
    · rintro ⟨hfit, hfollows⟩
      obtain ⟨between, hcalls⟩ := ih.2 hfit
      obtain ⟨d, hadd⟩ := (addition_asked_iff hfit).2 hfollows
      rw [← (of_performAll_eq_ok hcalls).1] at hadd
      obtain ⟨d', record, -, hcall, -⟩ := taken_of_addition hadd
      exact ⟨_, performAll_concat_eq_ok_iff.2 ⟨between, hcalls, hcall⟩⟩

/-! ## The same calls in another order -/

variable {calls' : List Call}

/-- **Calls that fit together do so in any order** that has targets first. -/
theorem Fit.of_perm (h : Fit calls) (hperm : calls.Perm calls') (htargets : TargetsFirst calls') :
    Fit calls' where
  named call hcall := h.named call (hperm.mem_iff.2 hcall)
  methods name method path hcall := h.methods name method path (hperm.mem_iff.2 hcall)
  distinct := (hperm.pairwise_iff Ne.symm).1 h.distinct
  targetsFirst := htargets

/-- No command comes twice among the entries that calls ask for. -/
theorem Fit.nodup_keys (h : Fit calls) {β : Type} {wanted : Call → Option (Command × β)}
    (hentry : ∀ call c v, wanted call = some (c, v) → call.name.designated? = .ok (some c)) :
    ((calls.filterMap wanted).map Prod.fst).Nodup := by
  refine List.pairwise_map.2 (List.pairwise_filterMap.2 (h.distinct.imp ?_))
  intro call later hne entry hcall entry' hlater heq
  refine hne ?_
  rw [hentry call entry.1 entry.2 hcall, hentry later entry'.1 entry'.2 hlater, heq]

/-- **The order of calls that fit together does not show** in the table they ask for. -/
theorem answer_alike_of_perm (h : Fit calls) (hperm : calls.Perm calls') :
    (asked calls).build.commands = (asked calls').build.commands
      ∧ ∀ name, (asked calls).build.resolve name = (asked calls').build.resolve name := by
  refine CommandTable.answer_alike (lookup_eq_of_perm (hperm.filterMap _) (h.nodup_keys ?_))
    (lookup_eq_of_perm (hperm.filterMap _) (h.nodup_keys ?_))
  · intro call c t hcall
    obtain ⟨name, rfl, hname⟩ := Call.definition?_eq_some_iff.1 hcall
    exact hname
  · intro call c e hcall
    obtain ⟨name, target, rfl, hname, -⟩ := Call.alias?_eq_some_iff.1 hcall
    exact hname

end Calls

/-- **Which calls are accepted, and in which orders.**  On an empty desk no call is refused exactly
when the calls fit together: every name designates a command, every definition has one of the three
methods, no two calls name the same command, and every alias has a target that a call before it
defines.  The draft then holds the definitions and the aliases that the calls ask for, in their
order.  The same calls in any other order that has targets first are accepted too, and the two
tables list the same commands and resolve every name alike. -/
theorem accepted_iff_fit (calls : List Call) :
    ((∃ desk, performAll calls Desk.empty = (.ok (), desk)) ↔ Fit calls)
    ∧ ∀ desk, performAll calls Desk.empty = (.ok (), desk) →
      desk.draft = asked calls
      ∧ ((∀ call ∈ calls, call.HasTextPath) → ∀ r ∈ desk.records, ∃ line, r.text = .ok line)
      ∧ ∀ calls', calls.Perm calls' → TargetsFirst calls' →
        ∃ desk', performAll calls' Desk.empty = (.ok (), desk')
          ∧ desk'.draft.build.commands = desk.draft.build.commands
          ∧ ∀ name, desk'.draft.build.resolve name = desk.draft.build.resolve name := by
  refine ⟨exists_performAll_eq_ok_iff, fun desk h => ?_⟩
  obtain ⟨hdraft, hlines⟩ := of_performAll_eq_ok h
  refine ⟨hdraft, hlines, fun calls' hperm htargets => ?_⟩
  have hfit : Fit calls := exists_performAll_eq_ok_iff.1 ⟨desk, h⟩
  obtain ⟨desk', h'⟩ := exists_performAll_eq_ok_iff.2 (hfit.of_perm hperm htargets)
  obtain ⟨hdraft', -⟩ := of_performAll_eq_ok h'
  obtain ⟨hcommands, hresolve⟩ := answer_alike_of_perm hfit hperm
  refine ⟨desk', h', ?_⟩
  rw [hdraft, hdraft']
  exact ⟨hcommands.symm, fun name => (hresolve name).symm⟩

/-- A command and its alias may be drafted before or behind another command. -/
theorem rect_and_size_before_status :
    let status : Call := .define (.str "status") (.str "GET") (.str "/status")
    let rect : Call := .defines .getElementRect (.get "/session/:sessionId/element/:id/rect")
    let size : Call := .addAlias (.str "getElementSize") (.command .getElementRect)
    ∃ desk desk', performAll [status, rect, size] Desk.empty = (.ok (), desk)
      ∧ performAll [rect, size, status] Desk.empty = (.ok (), desk')
      ∧ desk'.draft.templates ≠ desk.draft.templates
      ∧ ∀ name, desk'.draft.build.resolve name = desk.draft.build.resolve name := by
  intro status rect size
  have hperm : [status, rect, size].Perm [rect, size, status] :=
    @List.perm_append_comm _ [status] [rect, size]
  have htargets : TargetsFirst [rect, size, status] := by
    intro before name target after hsplit
    rcases before with _ | ⟨first, _ | ⟨second, _ | ⟨third, before⟩⟩⟩
    · simp [rect, Call.defines] at hsplit
    · obtain ⟨rfl, hrest⟩ := List.cons.inj hsplit
      have hcall : size = .addAlias name target := List.head_eq_of_cons_eq hrest
      obtain ⟨rfl, rfl⟩ := Call.addAlias.inj hcall
      exact ⟨.getElementRect, rfl, _, _, _, List.mem_cons_self, rfl⟩
    · simp [status] at hsplit
    · simp at hsplit
  obtain ⟨-, haccepted⟩ := accepted_iff_fit [status, rect, size]
  obtain ⟨hdraft, -, hreordered⟩ := haccepted _ rfl
  obtain ⟨desk', h', -, hresolve⟩ := hreordered _ hperm htargets
  obtain ⟨-, haccepted'⟩ := accepted_iff_fit [rect, size, status]
  refine ⟨_, desk', rfl, h', ?_, hresolve⟩
  rw [hdraft, (haccepted' desk' h').1]
  intro h
  cases h

end Draft

end BrowserRemote
