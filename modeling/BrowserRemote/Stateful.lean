import BrowserRemote.Fault

/-!
# Stateful — steps on a state that may fail

A step that fails keeps what it did to the state; nothing goes on behind it.
-/

namespace BrowserRemote.Stateful

variable {σ α β : Type} {before behind : σ}

/-- A step goes on where the step before it left the state, if that succeeded. -/
theorem bind_apply (x : ExceptT Fault (StateM σ) α) (f : α → ExceptT Fault (StateM σ) β) (s : σ) :
    (x >>= f) s = match x s with
      | (.ok a, s) => f a s
      | (.error fault, s) => (.error fault, s) := by
  change ExceptT.bindCont f (x s).1 (x s).2 = _
  rcases x s with ⟨fault | a, s⟩ <;> rfl

theorem bind_of_ok {x : ExceptT Fault (StateM σ) α} {a : α} (h : x before = (.ok a, behind))
    (f : α → ExceptT Fault (StateM σ) β) : (x >>= f) before = f a behind := by
  rw [bind_apply, h]

theorem bind_of_error {x : ExceptT Fault (StateM σ) α} {fault : Fault}
    (h : x before = (.error fault, behind)) (f : α → ExceptT Fault (StateM σ) β) :
    (x >>= f) before = (.error fault, behind) := by
  rw [bind_apply, h]

/-- A step that looks at the state goes on with it. -/
theorem get_bind (f : σ → ExceptT Fault (StateM σ) β) (s : σ) : (get >>= f) s = f s s := rfl

/-- A check leaves the state alone, whatever comes of it. -/
theorem lift_apply (x : Except Fault α) (s : σ) : (x : ExceptT Fault (StateM σ) α) s = (x, s) := by
  cases x <;> rfl

theorem lift_bind (x : Except Fault α) (f : α → ExceptT Fault (StateM σ) β) (s : σ) :
    ((x : ExceptT Fault (StateM σ) α) >>= f) s = match x with
      | .ok a => f a s
      | .error fault => (.error fault, s) := by
  cases x <;> rfl

end BrowserRemote.Stateful
