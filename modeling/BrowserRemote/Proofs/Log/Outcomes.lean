import BrowserRemote.Log.Traced

/-!
# Proofs/Log/Outcomes — failures of one kind, and runs that agree

    step ──▸ step ──▸ … ──▸ step

Two things are shown of a chain by showing them of its steps: all its failures are of one kind
(`FailsOnly.bind`), and two runs of it agree (`Traced.Agree.bind`), to one who reads the log or to
one who sees outcomes only.
-/

namespace BrowserRemote

/-- **All failures of a step are of one kind.** -/
def FailsOnly {α : Type} (kind : Fault → Prop) (step : Except Fault α) : Prop :=
  ∀ fault, step = .error fault → kind fault

namespace FailsOnly

variable {α β : Type} {kind kind' : Fault → Prop}

theorem ok (a : α) : FailsOnly kind (.ok a) := nofun

theorem error {fault : Fault} (h : kind fault) :
    FailsOnly kind (.error fault : Except Fault α) := by
  rintro _ ⟨⟩
  exact h

/-- A chain fails as its steps do. -/
theorem bind {first : Except Fault α} {next : α → Except Fault β} (hfirst : FailsOnly kind first)
    (hnext : ∀ a, FailsOnly kind (next a)) : FailsOnly kind (first >>= next) := by
  intro fault h
  rcases error_of_bind h with h | ⟨a, -, h⟩
  · exact hfirst fault h
  · exact hnext a fault h

/-- A chain that writes records fails as its steps do. -/
theorem outcome_bind {x : Traced α} {f : α → Traced β} (hx : FailsOnly kind x.outcome)
    (hf : ∀ a, FailsOnly kind (f a).outcome) : FailsOnly kind (x >>= f).outcome := by
  rw [Traced.outcome_bind]
  exact hx.bind hf

theorem mono {step : Except Fault α} (h : FailsOnly kind step)
    (hkind : ∀ fault, kind fault → kind' fault) : FailsOnly kind' step :=
  fun fault hfault => hkind fault (h fault hfault)

end FailsOnly

namespace Traced

variable {α β : Type} {log : Bool} {x y : Traced α}

/-- **Two runs agree**: in their outcomes, and in their records too if the log is read. -/
def Agree (log : Bool) (x y : Traced α) : Prop :=
  x.outcome = y.outcome ∧ (log = true → x.records = y.records)

/-- One who reads the log sees all there is. -/
theorem agree_true_iff : Agree true x y ↔ x = y := by
  constructor
  · rintro ⟨houtcome, hrecords⟩
    exact ext houtcome (hrecords rfl)
  · rintro rfl
    exact ⟨rfl, fun _ => rfl⟩

theorem agree_false_iff : Agree false x y ↔ x.outcome = y.outcome :=
  ⟨And.left, fun h => ⟨h, nofun⟩⟩

namespace Agree

theorem refl (x : Traced α) : Agree log x x := ⟨rfl, fun _ => rfl⟩

/-- Chains agree when their steps do. -/
theorem bind {f g : α → Traced β} (hx : Agree log x y) (hf : ∀ a, Agree log (f a) (g a)) :
    Agree log (x >>= f) (y >>= g) := by
  obtain ⟨houtcome, hrecords⟩ := hx
  rcases h : x.outcome with fault | a
  · rw [bind_error h, bind_error (houtcome.symm.trans h)]
    exact ⟨rfl, hrecords⟩
  · rw [bind_ok h, bind_ok (houtcome.symm.trans h)]
    refine ⟨(hf a).1, fun hlog => ?_⟩
    change x.records ++ (f a).records = y.records ++ (g a).records
    rw [hrecords hlog, (hf a).2 hlog]

/-- Runs that agree still agree when their failures are handled. -/
theorem tryCatch (hx : Agree log x y) (handler : Fault → Traced α) :
    Agree log (MonadExceptOf.tryCatch x handler) (MonadExceptOf.tryCatch y handler) := by
  obtain ⟨houtcome, hrecords⟩ := hx
  rcases h : x.outcome with fault | a
  · rw [tryCatch_error h, tryCatch_error (houtcome.symm.trans h)]
    refine ⟨rfl, fun hlog => ?_⟩
    change x.records ++ _ = y.records ++ _
    rw [hrecords hlog]
  · rw [tryCatch_ok h, tryCatch_ok (houtcome.symm.trans h)]
    exact ⟨houtcome, hrecords⟩

end Agree

end Traced

end BrowserRemote
