import BrowserRemote.Script.Call

/-!
# Proofs/Script/AtomSource — how the answer for an atom shows in its call

    answer ──source────────────▸ body ──▸ call
       │
       ├──resource failure──▸ record ──▸ script unavailable, by that failure
       │
       └──any other failure──▸ itself

The answer for an atom is handled in one place, and all that comes behind it is a chain: a chain
that begins with the source of an atom fails as the answer does (`FailsAs.bind`).  What is left of
an answer that succeeds is the body of the call (`atomBody_of_source`).
-/

namespace BrowserRemote.Script

variable {α β : Type} {files : FileTree} {atoms : Option Repository} {atom : String}
  {answer : Traced Value} {x : Traced α}

/-- The record of an atom that is not to be had. -/
def unavailableRecord (atom : String) (cause : Fault) : Record :=
  ⟨.scripts, .warning, .ok ("cannot load atom " ++ atom ++ ": " ++ cause.message)⟩

/-- **A computation fails as the answer for an atom does.**  A resource failure leaves the script of
the atom unavailable, with the failure for its cause, and brings one warning behind the records of
the answer; any other failure is passed on, with the records of the answer alone. -/
structure FailsAs (atom : String) (answer : Traced Value) (x : Traced α) : Prop where
  resource : ∀ cause, answer.outcome = .error cause → cause.isResourceFailure = true →
    x = ⟨.error (.scriptUnavailable (.str atom) atom cause),
      answer.records ++ [unavailableRecord atom cause]⟩
  other : ∀ cause, answer.outcome = .error cause → cause.isResourceFailure = false →
    x = ⟨.error cause, answer.records⟩

/-- What follows a failure does not happen. -/
theorem FailsAs.bind (h : FailsAs atom answer x) (f : α → Traced β) :
    FailsAs atom answer (x >>= f) where
  resource cause hanswer hcause := by
    rw [h.resource cause hanswer hcause]
    rfl
  other cause hanswer hcause := by
    rw [h.other cause hanswer hcause]
    rfl

theorem FailsAs.map (h : FailsAs atom answer x) (f : α → β) : FailsAs atom answer (f <$> x) :=
  h.bind fun a => pure (f a)

/-- **Failures are told apart** where the source of an atom is asked for. -/
theorem atomSource_failsAs (files : FileTree) (atoms : Option Repository) (atom : String) :
    FailsAs atom (sourceFrom files atoms (.str atom)) (atomSource files atoms (.str atom)) where
  resource cause hanswer hcause := by
    refine (Traced.tryCatch_error hanswer _).trans ?_
    rw [wrapFailure, if_pos hcause]
    rfl
  other cause hanswer hcause := by
    refine (Traced.tryCatch_error hanswer _).trans ?_
    rw [wrapFailure, if_neg (ne_true_of_eq_false hcause)]
    exact congrArg (Traced.mk _) (List.append_nil _)

/-- A source is passed on, and no record is added. -/
theorem atomSource_of_source {name source : Value}
    (h : (sourceFrom files atoms name).outcome = .ok source) :
    atomSource files atoms name = sourceFrom files atoms name :=
  Traced.tryCatch_ok h _

/-! ## The body of the call -/

/-- The body that calls an atom. -/
def atomBody (files : FileTree) (atoms : Option Repository) (name : Value) : Traced String := do
  let source ← atomSource files atoms name
  let text ← source.text
  return applied text

/-- **The call of an atom is that of its body.** -/
theorem callAtom_eq (files : FileTree) (atoms : Option Repository) (name : Value)
    (args : List Value) :
    callAtom files atoms name args = (call · args) <$> atomBody files atoms name := by
  simp only [callAtom, atomBody, map_bind, map_pure]

theorem atomBody_failsAs (files : FileTree) (atoms : Option Repository) (atom : String) :
    FailsAs atom (sourceFrom files atoms (.str atom)) (atomBody files atoms (.str atom)) :=
  (atomSource_failsAs files atoms atom).bind _

/-- **With a source at hand** only its text is needed for the body, and no record is added. -/
theorem atomBody_of_source {name source : Value}
    (h : (sourceFrom files atoms name).outcome = .ok source) :
    atomBody files atoms name
      = ⟨applied <$> source.text, (sourceFrom files atoms name).records⟩ := by
  have hsource : (atomSource files atoms name).outcome = .ok source := by
    rw [atomSource_of_source h, h]
  refine (Traced.bind_ok hsource _).trans ?_
  rw [atomSource_of_source h]
  cases source.text with
  | error fault => exact congrArg (Traced.mk _) (List.append_nil _)
  | ok text => exact congrArg (Traced.mk _) (List.append_nil _)

end BrowserRemote.Script
