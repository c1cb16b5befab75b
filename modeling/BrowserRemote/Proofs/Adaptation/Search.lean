import BrowserRemote.Proofs.Adaptation.Framing
import Mathlib.Data.List.Forall2

/-!
# Proofs/Adaptation/Search — a search changes two entries and no key

    using ──▸ css selector       value ──▸ selector       all other entries as they were

A search puts its new strategy and its new value where the old ones stood, so the adapted parameters
have the keys of the given ones, in their order (`Dict.AgreeBut`).
-/

namespace BrowserRemote

namespace Dict

/-- **Dictionaries that differ in the values of some text keys at most**: entry by entry the keys
are the same, and so are the values of all other keys. -/
def AgreeBut (names : List String) (p m : Dict) : Prop :=
  List.Forall₂ (fun a b => a.1 = b.1 ∧ ((∀ name ∈ names, a.1 ≠ .str name) → a.2 = b.2)) p m

namespace AgreeBut

variable {names names' : List String} {p m k : Dict}

theorem refl (names : List String) (p : Dict) : AgreeBut names p p :=
  List.forall₂_same.2 fun _ _ => ⟨rfl, fun _ => rfl⟩

theorem trans (h : AgreeBut names p m) (h' : AgreeBut names' m k) :
    AgreeBut (names ++ names') p k := by
  induction h generalizing k with
  | nil =>
    cases h'
    exact .nil
  | @cons a b p m hab _ ih =>
    rcases h' with _ | ⟨hbc, hrest⟩
    refine .cons ⟨hab.1.trans hbc.1, fun hother => ?_⟩ (ih hrest)
    have hleft := hab.2 fun name hname => hother name (List.mem_append_left _ hname)
    have hright := hbc.2 fun name hname => hab.1 ▸ hother name (List.mem_append_right _ hname)
    exact hleft.trans hright

/-- They have the same keys, in the same order. -/
theorem map_fst_eq (h : AgreeBut names p m) : p.map Prod.fst = m.map Prod.fst := by
  induction h with
  | nil => rfl
  | cons hab _ ih => rw [List.map_cons, List.map_cons, hab.1, ih]

/-- They have the same values of all other text keys. -/
theorem field?_eq (h : AgreeBut names p m) {q : String} (hq : q ∉ names) :
    p.field? q = m.field? q := by
  induction h with
  | nil => rfl
  | @cons a b p m hab _ ih =>
    rw [field?_cons, field?_cons, ← hab.1]
    split
    · next hkey =>
      rw [hab.2 fun name hname ha => ?_]
      have hname' : a.1 = .str q := Value.sameKey_str.1 hkey
      exact hq (Value.str.inj (hname'.symm.trans ha) ▸ hname)
    · exact ih

end AgreeBut

/-- **Setting a key that is there** changes its value and nothing else. -/
theorem agreeBut_setField (name : String) (value : Value) : ∀ {p : Dict} {v : Value},
    p.field? name = some v → AgreeBut [name] p (p.setField name value)
  | [], _, h => absurd h nofun
  | (k, w) :: p, v, h => by
    rw [field?_cons] at h
    rw [setField, insert]
    split at h
    · next hkey =>
      rw [if_pos hkey]
      refine .cons ⟨rfl, fun hother => ?_⟩ (AgreeBut.refl [name] p)
      exact absurd (Value.sameKey_str.1 hkey) (hother name List.mem_cons_self)
    · next hkey =>
      rw [if_neg hkey]
      exact .cons ⟨rfl, fun _ => rfl⟩ (agreeBut_setField name value h)

end Dict

namespace Adaptation

/-- **A search changes its strategy and its value at most.** -/
theorem agreeBut_of_searched {p m : Dict} (h : searched (.dict p) = .ok m) :
    p.AgreeBut ["using", "value"] m := by
  rcases searched_eq_ok h with rfl | ⟨⟨⟨l, husing⟩, v, hvalue, -⟩, strategy, value, rfl⟩
  · exact .refl _ m
  · have hkept : (p.setField "using" strategy).field? "value" = some v := by
      rw [Dict.field?_setField, if_neg (by decide)]
      exact hvalue
    exact (Dict.agreeBut_setField "using" strategy husing).trans
      (Dict.agreeBut_setField "value" value hkept)

/-- The older strategies are these four words. -/
theorem isLegacySearch_iff {p : Dict} : IsLegacySearch p ↔
    ∃ s ∈ ["class name", "id", "name", "tag name"],
    ∃ v, p.field? "using" = some (.str s) ∧ p.field? "value" = some v ∧ v ≠ .null := by
  constructor
  · rintro ⟨⟨l, husing⟩, v, hvalue, hv⟩
    refine ⟨l.word, ?_, v, husing, hvalue, hv⟩
    cases l <;> simp [Css.Legacy.word]
  · rintro ⟨s, hs, v, husing, hvalue, hv⟩
    refine ⟨?_, v, hvalue, hv⟩
    simp only [List.mem_cons, List.not_mem_nil, or_false] at hs
    obtain rfl | rfl | rfl | rfl := hs
    · exact ⟨.className, husing⟩
    · exact ⟨.id, husing⟩
    · exact ⟨.name, husing⟩
    · exact ⟨.tagName, husing⟩

/-- **A search by another strategy, or for nothing, changes nothing.** -/
theorem searched_eq_self {p m : Dict} (h : searched (.dict p) = .ok m)
    (hplain : (∀ s ∈ ["class name", "id", "name", "tag name"], p.field? "using" ≠ some (.str s))
      ∨ p.field? "value" = none ∨ p.field? "value" = some .null) : m = p := by
  rcases searched_eq_ok h with hsame | ⟨hlegacy, -⟩
  · exact hsame
  · exfalso
    obtain ⟨s, hs, v, husing, hvalue, hv⟩ := isLegacySearch_iff.1 hlegacy
    rcases hplain with hother | hnone | hnull
    · exact hother s hs husing
    · exact absurd (hnone.symm.trans hvalue) nofun
    · exact hv (Option.some.inj (hvalue.symm.trans hnull))

end Adaptation

end BrowserRemote
