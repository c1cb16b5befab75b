import BrowserRemote.Adaptation.Rules

/-!
# Proofs/Adaptation/Framing — what an adaptation leaves as it was

    search            ──▸ all but the strategy and the value
    inCurrentWindow   ──▸ all, with a window if there was none
    no rule           ──▸ all
    a script          ──▸ nothing

A placeholder that an adaptation `keeps` is filled as if the parameters had never been adapted
(`field?_of_adapt`).
-/

namespace BrowserRemote

/-- The value for a placeholder, by the parameters as they were given: a window that is not named
is the one in front. -/
def Dict.given? (p : Dict) (q : String) : Option Value :=
  match p.field? q with
  | some v => some v
  | none => if q = "windowHandle" then some (.str Adaptation.currentWindow) else none

theorem Dict.given?_of_ne {p : Dict} {q : String} (hq : q ≠ "windowHandle") :
    p.given? q = p.field? q := by
  unfold Dict.given?
  split
  · next v hv => exact hv.symm
  · next hnone => rw [if_neg hq, hnone]

namespace Adaptation

theorem of_getD_null {o : Option Value} {v : Value} (h : o.getD .null = v) (hv : v ≠ .null) :
    o = some v := by
  cases o with
  | none => exact absurd h.symm hv
  | some w => exact congrArg some h

/-- A rule, or none, leaves the value for a placeholder as it was given. -/
def keeps (rule : Option Adaptation) (q : String) : Bool :=
  match rule with
  | none => q != "windowHandle"
  | some .search => q != "using" && q != "value" && q != "windowHandle"
  | some .inCurrentWindow => true
  | some _ => false

/-- **A search by one of the older strategies**, for a value: only such a search changes. -/
def IsLegacySearch (p : Dict) : Prop :=
  (∃ l : Css.Legacy, p.field? "using" = some (.str l.word))
    ∧ ∃ v, p.field? "value" = some v ∧ v ≠ .null

variable {p m : Dict}

/-- A search in terms of the two entries it reads. -/
theorem searched_eq (p : Dict) : searched (.dict p) =
    match Css.Legacy.ofValue? ((p.field? "using").getD .null),
      ((p.field? "value").getD .null).present? with
    | some _, some value => do
      let found ← Css.bySelector ((p.field? "using").getD .null) value
      return (p.setField "using" found.1).setField "value" found.2
    | _, _ => .ok p := rfl

/-- A search that is by no older strategy, or for nothing, is copied. -/
theorem searched_of_not_isLegacySearch (h : ¬ IsLegacySearch p) : searched (.dict p) = .ok p := by
  rw [searched_eq]
  split
  · next l v hl hv =>
    obtain ⟨hv, hpresent⟩ := Value.of_present?_eq_some hv
    refine absurd ⟨⟨l, ?_⟩, v, ?_, hpresent⟩ h
    · exact of_getD_null (Css.Legacy.ofValue?_eq_some_iff.1 hl) nofun
    · exact of_getD_null hv hpresent
  · rfl

/-- **A search by an older strategy is rewritten** to what its selector is found by. -/
theorem searched_of_isLegacySearch {l : Css.Legacy} {v : Value}
    (husing : p.field? "using" = some (.str l.word)) (hvalue : p.field? "value" = some v)
    (hv : v ≠ .null) : searched (.dict p) =
      (fun found => (p.setField "using" found.1).setField "value" found.2)
        <$> Css.bySelector (.str l.word) v := by
  have hlegacy : Css.Legacy.ofValue? (.str l.word) = some l :=
    Css.Legacy.ofValue?_eq_some_iff.2 rfl
  rw [searched_eq, husing, hvalue, Option.getD_some, Option.getD_some, hlegacy,
    Value.present?_of_ne_null hv, map_eq_pure_bind]

/-- A search sets its strategy and its value, if it is by one of the older strategies. -/
theorem searched_eq_ok (h : searched (.dict p) = .ok m) :
    m = p ∨ IsLegacySearch p
      ∧ ∃ strategy value, m = (p.setField "using" strategy).setField "value" value := by
  by_cases hp : IsLegacySearch p
  · obtain ⟨⟨l, husing⟩, v, hvalue, hv⟩ := hp
    rw [searched_of_isLegacySearch husing hvalue hv, map_eq_pure_bind] at h
    obtain ⟨found, -, h⟩ := ok_of_bind h
    exact Or.inr ⟨⟨⟨l, husing⟩, v, hvalue, hv⟩, found.1, found.2, (Except.ok.inj h).symm⟩
  · rw [searched_of_not_isLegacySearch hp] at h
    exact Or.inl (Except.ok.inj h).symm

end Adaptation

namespace Rules

variable {rules : Rules} {files : FileTree} {atoms : Option Repository} {name : Value}

/-- Parameters are adapted by the rule that was found, or copied without a record. -/
theorem adapt_of_adaptation? {found : Option Adaptation} (h : rules.adaptation? name = .ok found)
    (parameters : Value) : rules.adapt files atoms name parameters =
      found.elim (Traced.ofExcept parameters.toDict) (·.apply files atoms parameters) := by
  have hfirst : (Traced.ofExcept (rules.adaptation? name)).outcome = .ok found := h
  refine (Traced.bind_ok hfirst _).trans ?_
  rcases found with _ | adaptation <;> rfl

/-- For a value that is no name at all, nothing is adapted. -/
theorem adapt_of_adaptation?_error {fault : Fault} (h : rules.adaptation? name = .error fault)
    (parameters : Value) : rules.adapt files atoms name parameters = ⟨.error fault, []⟩ := by
  have hfirst : (Traced.ofExcept (rules.adaptation? name)).outcome = .error fault := h
  exact Traced.bind_error hfirst _

theorem adaptation?_of_designated? {c : Command} (hc : name.designated? = .ok (some c)) :
    rules.adaptation? name = .ok (rules.lookup c) := by
  rw [adaptation?, hc]
  rfl

/-- A command's parameters are adapted by its own rule, or copied without a record. -/
theorem adapt_eq {c : Command} (hc : name.designated? = .ok (some c)) (parameters : Value) :
    rules.adapt files atoms name parameters = match rules.lookup c with
      | some adaptation => adaptation.apply files atoms parameters
      | none => Traced.ofExcept parameters.toDict := by
  rw [adapt_of_adaptation? (adaptation?_of_designated? hc)]
  rcases rules.lookup c with _ | adaptation <;> rfl

theorem outcome_adapt {c : Command} (hc : name.designated? = .ok (some c)) (parameters : Value) :
    (rules.adapt files atoms name parameters).outcome = match rules.lookup c with
      | some adaptation => (adaptation.apply files atoms parameters).outcome
      | none => parameters.toDict := by
  rw [adapt_eq hc]
  rcases rules.lookup c with _ | adaptation <;> rfl

/-- **A placeholder that is kept is filled as if nothing had been adapted.** -/
theorem field?_of_adapt {c : Command} (hc : name.designated? = .ok (some c)) {p m : Dict}
    (hm : (rules.adapt files atoms name (.dict p)).outcome = .ok m) {q : String}
    (hq : Adaptation.keeps (rules.lookup c) q = true) : m.field? q = p.given? q := by
  rw [outcome_adapt hc] at hm
  unfold Adaptation.keeps at hq
  split at hq
  · next hrule =>
    rw [hrule] at hm
    obtain rfl : p = m := Except.ok.inj hm
    exact (Dict.given?_of_ne (bne_iff_ne.1 hq)).symm
  · next hrule =>
    rw [hrule] at hm
    obtain ⟨⟨husing, hvalue⟩, hwindow⟩ : (q ≠ "using" ∧ q ≠ "value") ∧ q ≠ "windowHandle" := by
      simpa only [Bool.and_eq_true, bne_iff_ne] using hq
    rw [Dict.given?_of_ne hwindow]
    rcases Adaptation.searched_eq_ok hm with rfl | ⟨-, strategy, value, rfl⟩
    · rfl
    · rw [Dict.field?_setField, if_neg hvalue, Dict.field?_setField, if_neg husing]
  · next hrule =>
    rw [hrule] at hm
    obtain rfl : p.setFieldIfAbsent "windowHandle" (.str Adaptation.currentWindow) = m :=
      Except.ok.inj hm
    rw [Dict.field?_setFieldIfAbsent]
    by_cases hwindow : q = "windowHandle"
    · rw [if_pos hwindow, hwindow, Dict.given?]
      rcases p.field? "windowHandle" with _ | v <;> rfl
    · rw [if_neg hwindow, Dict.given?_of_ne hwindow]
  · exact absurd hq Bool.false_ne_true

end Rules

end BrowserRemote
