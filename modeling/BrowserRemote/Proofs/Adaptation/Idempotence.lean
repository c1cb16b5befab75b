import BrowserRemote.Proofs.Adaptation.Search

/-!
# Proofs/Adaptation/Idempotence — parameters that were adapted stay as they are

    older strategy, value ──▸ css selector, selector ──▸ css selector, selector
    no window             ──▸ current window         ──▸ current window

A search is rewritten exactly when it is by an older strategy, and what it is rewritten to is by
none (`not_isLegacySearch_of_strategy`); a window is added exactly when there is none.  So neither
adaptation does anything to its own result.
-/

namespace BrowserRemote

/-! ## A key that is set -/

namespace Dict

/-- **A text key that is absent is added at the end.** -/
theorem setField_of_absent (name : String) (value : Value) : ∀ {p : Dict},
    p.field? name = none → p.setField name value = p ++ [(.str name, value)]
  | [], _ => rfl
  | (k, v) :: p, h => by
    rw [field?_cons] at h
    split at h
    · cases h
    · next hkey =>
      rw [setField, insert, if_neg hkey, List.cons_append]
      exact congrArg _ (setField_of_absent name value h)

theorem setFieldIfAbsent_of_present {p : Dict} {name : String} {v : Value}
    (h : p.field? name = some v) (value : Value) : p.setFieldIfAbsent name value = p := by
  rw [setFieldIfAbsent, h]

theorem setFieldIfAbsent_of_absent {p : Dict} {name : String} (h : p.field? name = none)
    (value : Value) : p.setFieldIfAbsent name value = p ++ [(.str name, value)] := by
  rw [setFieldIfAbsent, h]
  exact setField_of_absent name value h

end Dict

namespace Adaptation

variable {p m : Dict}

/-! ## Searches -/

/-- A selector is what an older strategy is rewritten to. -/
theorem strategy_of_bySelector {l : Css.Legacy} {v : Value} {found : Value × Value}
    (h : Css.bySelector (.str l.word) v = .ok found) : found.1 = .str Css.selectorStrategy := by
  have hlegacy : Css.Legacy.ofValue? (.str l.word) = some l :=
    Css.Legacy.ofValue?_eq_some_iff.2 rfl
  rw [Css.bySelector, hlegacy] at h
  obtain ⟨selector, -, h⟩ := ok_of_bind h
  exact (congrArg Prod.fst (Except.ok.inj h)).symm

/-- **A selector is none of the older strategies.** -/
theorem not_isLegacySearch_of_strategy
    (h : m.field? "using" = some (.str Css.selectorStrategy)) : ¬ IsLegacySearch m := by
  rintro ⟨⟨l, husing⟩, -⟩
  have hword := Value.str.inj (Option.some.inj (h.symm.trans husing))
  cases l <;> exact absurd hword (by decide)

/-- **A search by an older strategy** gets a new strategy and a new value, and is none any more. -/
theorem rewritten_of_searched (hp : IsLegacySearch p) (h : searched (.dict p) = .ok m) :
    (∃ strategy value found, p.field? "using" = some strategy ∧ p.field? "value" = some value
      ∧ Css.bySelector strategy value = .ok found
      ∧ m.field? "using" = some found.1 ∧ m.field? "value" = some found.2)
    ∧ ¬ IsLegacySearch m := by
  obtain ⟨⟨l, husing⟩, v, hvalue, hv⟩ := hp
  rw [searched_of_isLegacySearch husing hvalue hv, map_eq_pure_bind] at h
  obtain ⟨found, hfound, h⟩ := ok_of_bind h
  obtain rfl : (p.setField "using" found.1).setField "value" found.2 = m := Except.ok.inj h
  have hstrategy : ((p.setField "using" found.1).setField "value" found.2).field? "using"
      = some found.1 := by
    rw [Dict.field?_setField, if_neg (by decide), Dict.field?_setField, if_pos rfl]
  refine ⟨⟨_, v, found, husing, hvalue, hfound, hstrategy, ?_⟩, ?_⟩
  · rw [Dict.field?_setField, if_pos rfl]
  · exact not_isLegacySearch_of_strategy
      (hstrategy.trans (congrArg some (strategy_of_bySelector hfound)))

/-- **What was searched is searched as it is.** -/
theorem searched_searched (h : searched (.dict p) = .ok m) : searched (.dict m) = .ok m := by
  by_cases hp : IsLegacySearch p
  · exact searched_of_not_isLegacySearch (rewritten_of_searched hp h).2
  · rw [searched_of_not_isLegacySearch hp] at h
    obtain rfl := Except.ok.inj h
    exact searched_of_not_isLegacySearch hp

/-- **A search changes exactly when it is by an older strategy.** -/
theorem searched_ne_iff (h : searched (.dict p) = .ok m) : m ≠ p ↔ IsLegacySearch p := by
  constructor
  · intro hne
    by_contra hp
    rw [searched_of_not_isLegacySearch hp] at h
    exact hne (Except.ok.inj h).symm
  · rintro hp rfl
    exact (rewritten_of_searched hp h).2 hp

/-! ## Windows -/

/-- **A window is added exactly when there is none**, and a window that is null is one. -/
theorem of_placed (h : placed (.dict p) = .ok m) :
    (p.field? "windowHandle" = none → m = p ++ [(.str "windowHandle", .str currentWindow)])
    ∧ ∀ w, p.field? "windowHandle" = some w → m = p := by
  obtain rfl : p.setFieldIfAbsent "windowHandle" (.str currentWindow) = m := Except.ok.inj h
  exact ⟨fun hnone => Dict.setFieldIfAbsent_of_absent hnone _,
    fun w hw => Dict.setFieldIfAbsent_of_present hw _⟩

/-- What was given comes first. -/
theorem prefix_of_placed (h : placed (.dict p) = .ok m) : p <+: m := by
  rcases hp : p.field? "windowHandle" with _ | w
  · rw [(of_placed h).1 hp]
    exact List.prefix_append _ _
  · obtain rfl := (of_placed h).2 w hp
    exact List.prefix_rfl

/-- **What has a window keeps it.** -/
theorem placed_placed (h : placed (.dict p) = .ok m) : placed (.dict m) = .ok m := by
  obtain rfl : p.setFieldIfAbsent "windowHandle" (.str currentWindow) = m := Except.ok.inj h
  have hwindow : (p.setFieldIfAbsent "windowHandle" (.str currentWindow)).field? "windowHandle"
      = some ((p.field? "windowHandle").getD (.str currentWindow)) := by
    rw [Dict.field?_setFieldIfAbsent, if_pos rfl]
  exact congrArg Except.ok (Dict.setFieldIfAbsent_of_present hwindow _)

end Adaptation

end BrowserRemote
