import BrowserRemote.Encoder
import BrowserRemote.Proofs.CommandTable.Resolution
import BrowserRemote.Proofs.Log.Outcomes
import BrowserRemote.Proofs.Route.Filling

/-!
# Proofs/Request/Encoding — what becomes of a command

    resolve ──▸ template ┐
                         ├──▸ path filled ──▸ request
    adapt ──▸ parameters ┘

A command becomes a request in three steps, each of which may fail.  Once the first two succeed,
the template and the adapted parameters decide (`outcome_encode_eq`); a request says which template
and which parameters it was made from (`encode_eq_ok`).
-/

namespace BrowserRemote.Encoder

variable {e : Encoder} {files : FileTree} {name parameters session : Value}

/-- The outcome of a plan: a template and adapted parameters, for a name that has a label. -/
theorem outcome_plan : (e.plan files name parameters).outcome = (do
    let t ← e.table.resolve name
    let m ← (e.rules.adapt files e.atoms name (given parameters)).outcome
    let _ ← name.label
    return (t, m)) := by
  simp only [plan, Traced.outcome_bind]
  rfl

/-- The outcome of encoding: a plan, and its path filled. -/
theorem outcome_encode : (e.encode files name parameters session).outcome = (do
    let plan ← (e.plan files name parameters).outcome
    let path ← plan.1.expand (.dict (pathValues plan.2 session))
    return ⟨plan.1.method, path, plan.2⟩) := by
  simp only [encode, Traced.outcome_bind]
  rfl

/-- A template and adapted parameters make a plan. -/
theorem outcome_plan_eq {t : Template} {m : Dict} (ht : e.table.resolve name = .ok t)
    (hm : (e.rules.adapt files e.atoms name (given parameters)).outcome = .ok m) :
    (e.plan files name parameters).outcome = .ok (t, m) := by
  obtain ⟨c, hc, -⟩ := CommandTable.resolve_eq_ok_iff.1 ht
  rw [outcome_plan, ht, hm, Value.label_of_designated? hc]
  rfl

/-- A plan comes from a template and adapted parameters. -/
theorem plan_eq_ok {t : Template} {m : Dict}
    (h : (e.plan files name parameters).outcome = .ok (t, m)) : e.table.resolve name = .ok t
      ∧ (e.rules.adapt files e.atoms name (given parameters)).outcome = .ok m := by
  rw [outcome_plan] at h
  obtain ⟨t', ht, h⟩ := ok_of_bind h
  obtain ⟨m', hm, h⟩ := ok_of_bind h
  obtain ⟨label, -, h⟩ := ok_of_bind h
  obtain ⟨rfl, rfl⟩ := Prod.mk.inj (Except.ok.inj h)
  exact ⟨ht, hm⟩

/-- **With a template and adapted parameters at hand**, only filling the path is left. -/
theorem outcome_encode_eq {t : Template} {m : Dict} (ht : e.table.resolve name = .ok t)
    (hm : (e.rules.adapt files e.atoms name (given parameters)).outcome = .ok m) :
    (e.encode files name parameters session).outcome =
      (fun path => ⟨t.method, path, m⟩) <$> t.expand (.dict (pathValues m session)) := by
  rw [outcome_encode, outcome_plan_eq ht hm]
  exact (map_eq_pure_bind _ (t.expand (.dict (pathValues m session)))).symm

/-- **A request comes from a plan whose path was filled.** -/
theorem encode_eq_ok {r : Request}
    (h : (e.encode files name parameters session).outcome = .ok r) :
    ∃ t m path, (e.plan files name parameters).outcome = .ok (t, m)
      ∧ t.expand (.dict (pathValues m session)) = .ok path ∧ r = ⟨t.method, path, m⟩ := by
  rw [outcome_encode] at h
  obtain ⟨⟨t, m⟩, hplan, h⟩ := ok_of_bind h
  obtain ⟨path, hpath, h⟩ := ok_of_bind h
  exact ⟨t, m, path, hplan, hpath, (Except.ok.inj h).symm⟩

/-- **Plans that agree lead to requests that agree.** -/
theorem encode_agree {log : Bool} {e' : Encoder} {files' : FileTree} {name' parameters' : Value}
    (h : Traced.Agree log (e.plan files name parameters) (e'.plan files' name' parameters'))
    (session : Value) : Traced.Agree log (e.encode files name parameters session)
      (e'.encode files' name' parameters' session) :=
  h.bind fun _ => .refl _

end BrowserRemote.Encoder
