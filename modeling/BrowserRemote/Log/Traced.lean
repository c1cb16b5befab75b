import BrowserRemote.Log.Record

/-!
# Log/Traced — computations that write records and may fail

A traced computation has an outcome and the records written on the way to it; a failure keeps the
records written before it and writes none after.  All records are kept here: a level holds some
back only where they are shown.
-/

namespace BrowserRemote

/-- An outcome, and the records written on the way to it. -/
structure Traced (α : Type) where
  outcome : Except Fault α
  records : List Record

namespace Traced

variable {α β γ : Type}

/-- A value, and no record. -/
protected def pure (a : α) : Traced α := ⟨.ok a, []⟩

/-- One computation after another, if the first one succeeds. -/
protected def bind (x : Traced α) (f : α → Traced β) : Traced β :=
  match x.outcome with
  | .ok a => ⟨(f a).outcome, x.records ++ (f a).records⟩
  | .error fault => ⟨.error fault, x.records⟩

instance : Monad Traced where
  pure := Traced.pure
  bind := Traced.bind

/-- A failure, and no record. -/
def fail (fault : Fault) : Traced α := ⟨.error fault, []⟩

instance : MonadExceptOf Fault Traced where
  throw := fail
  tryCatch x handler := match x.outcome with
    | .ok _ => x
    | .error fault => ⟨(handler fault).outcome, x.records ++ (handler fault).records⟩

/-- An outcome, and no record. -/
def ofExcept (outcome : Except Fault α) : Traced α := ⟨outcome, []⟩

instance : MonadLift (Except Fault) Traced where
  monadLift := ofExcept

/-- Writes one record, whose text is worked out when it is shown. -/
def writeLater (channel : Channel) (severity : Severity) (text : Except Fault String) :
    Traced Unit :=
  ⟨.ok (), [⟨channel, severity, text⟩]⟩

/-- Writes one record. -/
def write (channel : Channel) (severity : Severity) (text : String) : Traced Unit :=
  writeLater channel severity (.ok text)

/-! ## The laws -/

@[ext] theorem ext {x y : Traced α} (outcome : x.outcome = y.outcome)
    (records : x.records = y.records) : x = y := by
  cases x; cases y; simp_all

theorem pure_eq (a : α) : (pure a : Traced α) = ⟨.ok a, []⟩ := rfl

@[simp] theorem outcome_pure (a : α) : (pure a : Traced α).outcome = .ok a := rfl

@[simp] theorem records_pure (a : α) : (pure a : Traced α).records = [] := rfl

theorem bind_eq (x : Traced α) (f : α → Traced β) : x >>= f = Traced.bind x f := rfl

/-- After a success the next computation goes on, behind the records written so far. -/
theorem bind_ok {x : Traced α} {a : α} (h : x.outcome = .ok a) (f : α → Traced β) :
    x >>= f = ⟨(f a).outcome, x.records ++ (f a).records⟩ := by
  rw [bind_eq, Traced.bind, h]

/-- After a failure nothing goes on. -/
theorem bind_error {x : Traced α} {fault : Fault} (h : x.outcome = .error fault)
    (f : α → Traced β) : x >>= f = ⟨.error fault, x.records⟩ := by
  rw [bind_eq, Traced.bind, h]

/-- After a success there is nothing to handle. -/
theorem tryCatch_ok {x : Traced α} {a : α} (h : x.outcome = .ok a) (handler : Fault → Traced α) :
    MonadExceptOf.tryCatch x handler = x := by
  simp only [MonadExceptOf.tryCatch, h]

/-- After a failure its handler goes on. -/
theorem tryCatch_error {x : Traced α} {fault : Fault} (h : x.outcome = .error fault)
    (handler : Fault → Traced α) : MonadExceptOf.tryCatch x handler
      = ⟨(handler fault).outcome, x.records ++ (handler fault).records⟩ := by
  simp only [MonadExceptOf.tryCatch, h]

/-- **Outcomes follow one another** as if no record were written. -/
theorem outcome_bind (x : Traced α) (f : α → Traced β) :
    (x >>= f).outcome = x.outcome >>= fun a => (f a).outcome := by
  rcases h : x.outcome with fault | a
  · rw [bind_error h]
    rfl
  · rw [bind_ok h]
    rfl

/-- A computation that ends well passed its first part and then the others. -/
theorem ok_of_outcome_bind {x : Traced α} {f : α → Traced β} {b : β}
    (h : (x >>= f).outcome = .ok b) : ∃ a, x.outcome = .ok a ∧ (f a).outcome = .ok b := by
  rw [outcome_bind] at h
  exact ok_of_bind h

/-- Going on with nothing to do changes nothing. -/
theorem bind_pure_self (x : Traced α) : Traced.bind x Traced.pure = x := by
  cases h : x.outcome with
  | ok a =>
    exact ext (by simp [Traced.bind, Traced.pure, h]) (by simp [Traced.bind, Traced.pure, h])
  | error e => exact ext (by simp [Traced.bind, h]) (by simp [Traced.bind, h])

/-- Computations may be grouped either way. -/
theorem bind_group (x : Traced α) (f : α → Traced β) (g : β → Traced γ) :
    Traced.bind (Traced.bind x f) g = Traced.bind x fun a => Traced.bind (f a) g := by
  simp only [Traced.bind]
  cases x.outcome with
  | error e => rfl
  | ok a =>
    cases h : (f a).outcome with
    | ok b => simp [h]
    | error e => simp [h]

instance : LawfulMonad Traced := LawfulMonad.mk' Traced bind_pure_self
  (fun a f => ext rfl (by simp [bind, Traced.bind, pure, Traced.pure])) bind_group

end Traced

end BrowserRemote
