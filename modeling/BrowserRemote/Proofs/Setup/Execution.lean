import BrowserRemote.Proofs.Settings.Latest
import BrowserRemote.Setup.Execution

/-!
# Proofs/Setup/Execution — running a setup file is executing it

    stage ──deed──▸ stage ──deed──▸ … ──▸ stage, or a failure on the way

Every execution ends where the run ends, and as it ends: the variables and the shelf that a run
leaves are those of the last stage (`run_of_executes`), also if the run failed there.  There is an
execution for all statements at every stage (`exists_executes`).  What a variable holds at the end
is what it was last set to (`lookup_after_start`), and the shelf at the end is the one at the start
with the settings made on the way put on it (`shelf_after`).
-/

namespace BrowserRemote.Setup

open Stateful (bind_of_ok bind_of_error lift_apply lift_bind)

/-! ## Settings from fields -/

/-- **Fields make settings and put them on the shelf**, or leave the shelf as it is. -/
theorem settingsOf_apply (fields : List (String × Value)) (shelf : Shelf) :
    settingsOf fields shelf = match settingsFrom shelf fields with
      | .ok s => (.ok (.settings s), shelf.put s)
      | .error fault => (.error fault, shelf) := by
  by_cases hknown : (fields.all fun f => f.1 ∈ settingsFields) = true
  · rw [settingsOf, settingsFrom, if_pos hknown, if_pos hknown]
    rcases fields.lookup "dialect" with _ | dialect
    · rfl
    · dsimp only
      generalize (fields.lookup "atom_path").getD .null = atomPath
      generalize (fields.lookup "atoms").getD .null = atoms
      rcases hmake : shelf.make dialect atomPath atoms with fault | ⟨s, shelf'⟩
      · exact bind_of_error (Shelf.newSettings_of_error hmake) _
      · obtain ⟨-, -, rfl⟩ := Shelf.of_make_eq_ok hmake
        exact bind_of_ok (Shelf.newSettings_of_ok hmake) _
  · rw [settingsOf, settingsFrom, if_neg hknown, if_neg hknown]
    rfl

/-! ## Stages -/

namespace Stage

@[simp] theorem after_nil (g : Stage) : g.after [] = g := rfl

theorem after_append (g : Stage) (deeds more : List Deed) :
    g.after (deeds ++ more) = (g.after deeds).after more := List.foldl_append

theorem after_concat (g : Stage) (deeds : List Deed) (deed : Deed) :
    g.after (deeds ++ [deed]) = (g.after deeds).perform deed := after_append g deeds [deed]

end Stage

/-! ## Executions are what runs do -/

mutual

/-- **The value of an expression is the one it evaluates to**, and the shelf is left as its deeds
leave it.  An expression sets no variable. -/
theorem eval_of_evaluates {g : Stage} {e : Expr} {deeds : List Deed} {outcome : Except Fault Value}
    (h : Evaluates g e deeds outcome) :
    eval g.vars e g.shelf = (outcome, (g.after deeds).shelf) ∧ (g.after deeds).vars = g.vars := by
  cases h with
  | value g v => rw [eval]; exact ⟨rfl, rfl⟩
  | fromOption g key => rw [eval]; exact ⟨lift_apply _ _, rfl⟩
  | fromVariable g name => rw [eval]; exact ⟨lift_apply _ _, rfl⟩
  | fieldFails hfields =>
    obtain ⟨hvalues, hvars⟩ := evalFields_of_evaluatesAll hfields
    rw [eval]
    exact ⟨bind_of_error hvalues _, hvars⟩
  | refused hfields hmake =>
    obtain ⟨hvalues, hvars⟩ := evalFields_of_evaluatesAll hfields
    rw [eval, bind_of_ok hvalues, settingsOf_apply, hmake]
    exact ⟨rfl, hvars⟩
  | made hfields hmake =>
    obtain ⟨hvalues, hvars⟩ := evalFields_of_evaluatesAll hfields
    rw [eval, bind_of_ok hvalues, settingsOf_apply, hmake, Stage.after_concat]
    exact ⟨rfl, hvars⟩

theorem evalFields_of_evaluatesAll {g : Stage} {fields : List (String × Expr)} {deeds : List Deed}
    {outcome : Except Fault (List (String × Value))} (h : EvaluatesAll g fields deeds outcome) :
    evalFields g.vars fields g.shelf = (outcome, (g.after deeds).shelf)
      ∧ (g.after deeds).vars = g.vars := by
  cases h with
  | nil g => rw [evalFields]; exact ⟨rfl, rfl⟩
  | stops hfirst =>
    obtain ⟨hvalue, hvars⟩ := eval_of_evaluates hfirst
    rw [evalFields]
    exact ⟨bind_of_error hvalue _, hvars⟩
  | @goesOn _ _ _ _ _ _ _ outcome hfirst hrest =>
    obtain ⟨hvalue, hvars⟩ := eval_of_evaluates hfirst
    obtain ⟨hvalues, hvars'⟩ := evalFields_of_evaluatesAll hrest
    -- the first field set no variable, so the others are evaluated with the same ones
    rw [hvars] at hvalues
    rw [evalFields, bind_of_ok hvalue, Stage.after_append]
    rcases outcome with fault | values
    · exact ⟨bind_of_error hvalues _, hvars'.trans hvars⟩
    · exact ⟨bind_of_ok hvalues _, hvars'.trans hvars⟩

end

mutual

theorem step_of_does {g : Stage} {s : Statement} {deeds : List Deed} {outcome : Except Fault Unit}
    (h : Does g s deeds outcome) : step g.vars s g.shelf =
      ((fun _ => (g.after deeds).vars) <$> outcome, (g.after deeds).shelf) := by
  cases h with
  | assigns hvalue =>
    obtain ⟨hvalue, hvars⟩ := eval_of_evaluates hvalue
    rw [step, bind_of_ok hvalue, Stage.after_concat]
    exact congrArg (fun vars => (Except.ok (setEntry vars _ _), _)) hvars.symm
  | assignFails hvalue =>
    rw [step]
    exact bind_of_error (eval_of_evaluates hvalue).1 _
  | enters hholds hbody =>
    rw [step, lift_bind, hholds]
    exact run_of_executes hbody
  | skips hholds => rw [step, lift_bind, hholds]; rfl
  | conditionFails hholds => rw [step, lift_bind, hholds]; rfl
  | mentions g name =>
    rw [step, lift_bind]
    cases readVariable g.vars name <;> rfl

/-- **A run ends as the execution of its statements ends**, and leaves the shelf and the variables
as the deeds of the execution leave them. -/
theorem run_of_executes {g : Stage} {statements : List Statement} {deeds : List Deed}
    {outcome : Except Fault Unit} (h : Executes g statements deeds outcome) :
    run g.vars statements g.shelf =
      ((fun _ => (g.after deeds).vars) <$> outcome, (g.after deeds).shelf) := by
  cases h with
  | nil g => rw [run]; rfl
  | stops hfirst =>
    rw [run]
    exact bind_of_error (step_of_does hfirst) _
  | goesOn hfirst hrest =>
    rw [run, bind_of_ok (step_of_does hfirst), Stage.after_append]
    exact run_of_executes hrest

end

/-! ## There is always an execution -/

mutual

theorem exists_evaluates (g : Stage) :
    ∀ e : Expr, ∃ deeds outcome, Evaluates g e deeds outcome
  | .value v => ⟨_, _, .value g v⟩
  | .fromOption key => ⟨_, _, .fromOption g key⟩
  | .fromVariable name => ⟨_, _, .fromVariable g name⟩
  | .newSettings fields => by
    obtain ⟨deeds, fault | values, hfields⟩ := exists_evaluatesAll g fields
    · exact ⟨_, _, .fieldFails hfields⟩
    · rcases hmake : settingsFrom (g.after deeds).shelf values with fault | s
      · exact ⟨_, _, .refused hfields hmake⟩
      · exact ⟨_, _, .made hfields hmake⟩

theorem exists_evaluatesAll (g : Stage) :
    ∀ fields : List (String × Expr), ∃ deeds outcome, EvaluatesAll g fields deeds outcome
  | [] => ⟨_, _, .nil g⟩
  | (name, e) :: fields => by
    obtain ⟨deeds, fault | v, hfirst⟩ := exists_evaluates g e
    · exact ⟨_, _, .stops hfirst⟩
    · obtain ⟨more, outcome, hrest⟩ := exists_evaluatesAll (g.after deeds) fields
      exact ⟨_, _, .goesOn hfirst hrest⟩

end

mutual

theorem exists_does (g : Stage) : ∀ s : Statement, ∃ deeds outcome, Does g s deeds outcome
  | .assign name e => by
    obtain ⟨deeds, fault | v, hvalue⟩ := exists_evaluates g e
    · exact ⟨_, _, .assignFails hvalue⟩
    · exact ⟨_, _, .assigns hvalue⟩
  | .whenOption key body => by
    rcases hholds : optionHolds g.vars key with fault | _ | _
    · exact ⟨_, _, .conditionFails hholds⟩
    · exact ⟨_, _, .skips hholds⟩
    · obtain ⟨deeds, outcome, hbody⟩ := exists_executes g body
      exact ⟨_, _, .enters hholds hbody⟩
  | .mention name => ⟨_, _, .mentions g name⟩

/-- **All statements have an execution**, from every stage. -/
theorem exists_executes (g : Stage) :
    ∀ statements : List Statement, ∃ deeds outcome, Executes g statements deeds outcome
  | [] => ⟨_, _, .nil g⟩
  | s :: statements => by
    obtain ⟨deeds, fault | _, hfirst⟩ := exists_does g s
    · exact ⟨_, _, .stops hfirst⟩
    · obtain ⟨more, outcome, hrest⟩ := exists_executes (g.after deeds) statements
      exact ⟨_, _, .goesOn hfirst hrest⟩

end

/-! ## What an execution leaves -/

/-- A variable was last set by the deed that came last, or as before if that deed did not set it. -/
theorem lastSet_concat_iff (deeds : List Deed) (deed : Deed) (name : String) (v : Value) :
    LastSet (deeds ++ [deed]) name v ↔
      deed = .sets name v ∨ (∀ w, deed ≠ .sets name w) ∧ LastSet deeds name v := by
  constructor
  · rintro ⟨before, behind, hdeeds, hlast⟩
    -- the deed that set the variable is the last one, or stands before it
    rcases List.eq_nil_or_concat behind with rfl | ⟨behind, last, rfl⟩
    · exact Or.inl (List.append_inj' hdeeds rfl |>.2 |> List.singleton_inj.1)
    · rw [List.concat_eq_append, ← List.cons_append, ← List.append_assoc] at hdeeds
      obtain ⟨rfl, hdeed⟩ := List.append_inj' hdeeds rfl
      obtain rfl := List.singleton_inj.1 hdeed
      refine Or.inr ⟨fun w hw => hlast w (by simp [hw]), before, behind, rfl, fun w hw => ?_⟩
      exact hlast w (by simp [hw])
  · rintro (rfl | ⟨hother, before, behind, rfl, hlast⟩)
    · exact ⟨deeds, [], rfl, fun _ => List.not_mem_nil⟩
    · refine ⟨before, behind ++ [deed], by simp, fun w hw => ?_⟩
      rcases List.mem_append.1 hw with hw | hw
      · exact hlast w hw
      · exact hother w (List.mem_singleton.1 hw).symm

theorem not_lastSet_nil (name : String) (v : Value) : ¬ LastSet [] name v := by
  rintro ⟨before, behind, hdeeds, -⟩
  exact List.cons_ne_nil _ _ (List.append_eq_nil_iff.1 hdeeds.symm).2

/-- **From no variables on, a variable holds what it was last set to.** -/
theorem lookup_after_iff (shelf : Shelf) (deeds : List Deed) (name : String) (v : Value) :
    (Stage.after ⟨[], shelf⟩ deeds).vars.lookup name = some v ↔ LastSet deeds name v := by
  induction deeds using List.reverseRecOn with
  | nil => simp [not_lastSet_nil]
  | append_singleton deeds deed ih =>
    rw [Stage.after_concat, lastSet_concat_iff, ← ih]
    cases deed with
    | makes s => simp [Stage.perform]
    | sets other w =>
      rw [Stage.perform, lookup_setEntry]
      by_cases hname : name = other
      · simp [hname]
      · simp [hname, Ne.symm hname]

/-- A variable of a file that has been executed holds what it was last set to; the options are set
first. -/
theorem lookup_after_start (options : Value) (shelf : Shelf) (deeds : List Deed) (name : String)
    (v : Value) : ((Stage.start options shelf).after deeds).vars.lookup name = some v ↔
      LastSet (.sets optionsName options :: deeds) name v :=
  lookup_after_iff shelf (.sets optionsName options :: deeds) name v

/-- **The shelf at the end** is that at the start, with what was made on the way put on it. -/
theorem shelf_after (g : Stage) (deeds : List Deed) :
    (g.after deeds).shelf = g.shelf.putAll (settingsMade deeds) := by
  induction deeds generalizing g with
  | nil => rfl
  | cons deed deeds ih =>
    cases deed with
    | sets name v => exact ih (g.perform (.sets name v))
    | makes s => exact ih (g.perform (.makes s))

end BrowserRemote.Setup
