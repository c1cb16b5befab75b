import BrowserRemote.Proofs.Adaptation.Idempotence
import BrowserRemote.Proofs.Request.CommonCommands
import BrowserRemote.Proofs.Request.ScriptCalls

/-!
# Proofs/Request/PlainCommands — commands that are not left to a script keep their parameters

    a search, W3C ──────────▸ strategy and value may change ──▸ nothing changes
    a window, JSON wire ────▸ a window may be added ──────────▸ nothing changes
    any other name ─────────▸ nothing changes

Without scripts there are two adaptations, and each belongs to the commands of one dialect
(`Dialect.lookup_eq_search_iff`, `Dialect.lookup_eq_inCurrentWindow_iff`).  Both keep the keys they
find, and neither does anything to its own result (`Adaptation.searched_searched`,
`Adaptation.placed_placed`).
-/

namespace BrowserRemote

/-- The value designates one of some commands. -/
def Value.DesignatesOneOf (name : Value) (commands : List Command) : Prop :=
  ∃ c ∈ commands, name.designated? = .ok (some c)

namespace Rules

variable {rules : Rules} {files : FileTree} {atoms : Option Repository} {name : Value} {p m : Dict}

/-- **No script is put in place of the parameters** for a name. -/
def KeepsParameters (rules : Rules) (name : Value) : Prop :=
  ∀ a, rules.adaptation? name = .ok (some a) → a.isScript = false

theorem keepsParameters_of_rule {a : Adaptation} (h : rules.adaptation? name = .ok (some a))
    (ha : a.isScript = false) : rules.KeepsParameters name := by
  intro b hb
  obtain rfl : a = b := Option.some.inj (Except.ok.inj (h.symm.trans hb))
  exact ha

/-- A rule is found for the names of the commands it belongs to. -/
theorem adaptation?_eq_some_iff {a : Adaptation} {commands : List Command}
    (h : ∀ c, rules.lookup c = some a ↔ c ∈ commands) :
    rules.adaptation? name = .ok (some a) ↔ name.DesignatesOneOf commands := by
  constructor
  · intro hrule
    obtain ⟨found, hname, hrule⟩ := ok_of_bind hrule
    rcases found with _ | c
    · cases hrule
    · exact ⟨c, (h c).1 (Except.ok.inj hrule), hname⟩
  · rintro ⟨c, hc, hname⟩
    rw [adaptation?_of_designated? hname, (h c).2 hc]

/-- **Without a script**, parameters are copied, or adapted as a search or as a window command. -/
theorem cases_of_adapt (hplain : rules.KeepsParameters name)
    (hm : (rules.adapt files atoms name (.dict p)).outcome = .ok m) :
    (rules.adaptation? name = .ok none ∧ m = p)
    ∨ (rules.adaptation? name = .ok (some .search) ∧ Adaptation.searched (.dict p) = .ok m)
    ∨ (rules.adaptation? name = .ok (some .inCurrentWindow)
      ∧ Adaptation.placed (.dict p) = .ok m) := by
  rcases hfound : rules.adaptation? name with fault | _ | a
  · rw [adapt_of_adaptation?_error hfound] at hm
    cases hm
  · rw [adapt_of_adaptation? hfound] at hm
    exact Or.inl ⟨rfl, (Except.ok.inj hm).symm⟩
  · rw [adapt_of_adaptation? hfound] at hm
    have hscript := hplain a hfound
    cases a with
    | search => exact Or.inr (Or.inl ⟨rfl, hm⟩)
    | inCurrentWindow => exact Or.inr (Or.inr ⟨rfl, hm⟩)
    | _ => cases hscript

/-- **What was adapted without a script is adapted as it is.** -/
theorem adapt_adapt (hplain : rules.KeepsParameters name)
    (hm : (rules.adapt files atoms name (.dict p)).outcome = .ok m) (files' : FileTree)
    (atoms' : Option Repository) : rules.adapt files' atoms' name (.dict m) = ⟨.ok m, []⟩ := by
  obtain ⟨hrule, rfl⟩ | ⟨hrule, hm⟩ | ⟨hrule, hm⟩ := cases_of_adapt hplain hm
  · rw [adapt_of_adaptation? hrule]
    rfl
  · rw [adapt_of_adaptation? hrule]
    exact congrArg Traced.ofExcept (Adaptation.searched_searched hm)
  · rw [adapt_of_adaptation? hrule]
    exact congrArg Traced.ofExcept (Adaptation.placed_placed hm)

/-- **Without a script no key is lost or moved**; what is added comes last. -/
theorem keys_prefix_of_adapt (hplain : rules.KeepsParameters name)
    (hm : (rules.adapt files atoms name (.dict p)).outcome = .ok m) :
    p.map Prod.fst <+: m.map Prod.fst := by
  obtain ⟨-, rfl⟩ | ⟨-, hm⟩ | ⟨-, hm⟩ := cases_of_adapt hplain hm
  · exact List.prefix_rfl
  · exact (Adaptation.agreeBut_of_searched hm).map_fst_eq ▸ List.prefix_rfl
  · exact (Adaptation.prefix_of_placed hm).map Prod.fst

end Rules

namespace Dialect

/-- The commands of a dialect whose searches are adapted. -/
def adaptedSearches : Dialect → List Command
  | .w3c => searchCommands
  | .jsonWire => []

/-- Searches are adapted in the W3C dialect only. -/
theorem lookup_eq_search_iff (d : Dialect) : ∀ c,
    d.rules.lookup c = some .search ↔ c ∈ d.adaptedSearches := by
  cases d with
  | w3c => decide
  | jsonWire => decide

/-- Windows are added in the JSON wire dialect only, where the path names one. -/
theorem lookup_eq_inCurrentWindow_iff (d : Dialect) : ∀ c,
    d.rules.lookup c = some .inCurrentWindow ↔ c ∈ d.windowCommands := by
  cases d with
  | w3c => decide
  | jsonWire => decide

variable {d : Dialect} {files : FileTree} {atoms : Option Repository} {name : Value} {p m : Dict}

/-- **Commands that are not left to a script keep their parameters**, whatever their name.  All keys
stay, in their order, and nothing changes but this.  A search of the W3C dialect changes its
strategy and its value at most; it does so exactly when it is by an older strategy and for a value,
and the two are what the selector is found by.  A window command of the JSON wire dialect gets the
current window for its last entry if it names none; a window that is null is named.  Parameters that
were adapted are adapted as they are, wherever atoms are found. -/
theorem plain_parameters_adapted_once (hplain : d.rules.KeepsParameters name)
    (hm : (d.rules.adapt files atoms name (.dict p)).outcome = .ok m) :
    p.map Prod.fst <+: m.map Prod.fst
    ∧ (name.DesignatesOneOf d.adaptedSearches →
        p.AgreeBut ["using", "value"] m
        ∧ (m ≠ p ↔ ∃ s ∈ ["class name", "id", "name", "tag name"], ∃ v,
            p.field? "using" = some (.str s) ∧ p.field? "value" = some v ∧ v ≠ .null)
        ∧ (m ≠ p → ∃ strategy value found, p.field? "using" = some strategy
            ∧ p.field? "value" = some value ∧ Css.bySelector strategy value = .ok found
            ∧ m.field? "using" = some found.1 ∧ m.field? "value" = some found.2))
    ∧ (name.DesignatesOneOf d.windowCommands →
        (p.field? "windowHandle" = none → m = p ++ [(.str "windowHandle", .str "current")])
        ∧ ∀ w, p.field? "windowHandle" = some w → m = p)
    ∧ (¬ name.DesignatesOneOf d.adaptedSearches → ¬ name.DesignatesOneOf d.windowCommands → m = p)
    ∧ ∀ files' atoms', d.rules.adapt files' atoms' name (.dict m) = ⟨.ok m, []⟩ := by
  simp only [← Rules.adaptation?_eq_some_iff d.lookup_eq_search_iff,
    ← Rules.adaptation?_eq_some_iff d.lookup_eq_inCurrentWindow_iff]
  refine ⟨Rules.keys_prefix_of_adapt hplain hm, ?_, ?_, ?_, Rules.adapt_adapt hplain hm⟩
  · intro hrule
    rw [Rules.adapt_of_adaptation? hrule] at hm
    have hchanges := Adaptation.searched_ne_iff hm
    refine ⟨Adaptation.agreeBut_of_searched hm, hchanges.trans Adaptation.isLegacySearch_iff, ?_⟩
    intro hne
    exact (Adaptation.rewritten_of_searched (hchanges.1 hne) hm).1
  · intro hrule
    rw [Rules.adapt_of_adaptation? hrule] at hm
    exact Adaptation.of_placed hm
  · intro hsearch hwindow
    obtain ⟨-, hcopied⟩ | ⟨hrule, -⟩ | ⟨hrule, -⟩ := Rules.cases_of_adapt hplain hm
    · exact hcopied
    · exact absurd hrule hsearch
    · exact absurd hrule hwindow

/-- A search by identifier becomes one by selector and stays that; a window command gets the current
window behind what was given, and keeps that. -/
theorem search_and_window_adapted_once :
    let p : Dict := [(.str "value", .str "1a"), (.str "id", .str "p"), (.str "using", .str "id")]
    let m : Dict := [(.str "value", .str "#\\31 a"), (.str "id", .str "p"),
      (.str "using", .str "css selector")]
    let placed : Dict := p ++ [(.str "windowHandle", .str "current")]
    (p.AgreeBut ["using", "value"] m
      ∧ (rules .w3c).adapt .empty none (.str "findChildElement") (.dict m) = ⟨.ok m, []⟩)
    ∧ ((rules .jsonWire).adapt .empty none (.command .maximizeCurrentWindow) (.dict p)).outcome
      = .ok placed
    ∧ (rules .jsonWire).adapt .empty none (.command .maximizeCurrentWindow) (.dict placed)
      = ⟨.ok placed, []⟩ := by
  intro p m placed
  have hsearch : (rules .w3c).adaptation? (.str "findChildElement") = .ok (some .search) := rfl
  have hwindow : (rules .jsonWire).adaptation? (.command .maximizeCurrentWindow)
      = .ok (some .inCurrentWindow) := rfl
  have hm : ((rules .w3c).adapt .empty none (.str "findChildElement") (.dict p)).outcome = .ok m :=
    rfl
  have hplaced : ((rules .jsonWire).adapt .empty none (.command .maximizeCurrentWindow)
      (.dict p)).outcome = .ok placed := rfl
  have hplain := Rules.keepsParameters_of_rule hsearch rfl
  have hplain' := Rules.keepsParameters_of_rule hwindow rfl
  obtain ⟨-, hsearched, -, -, hagain⟩ := plain_parameters_adapted_once hplain hm
  obtain ⟨-, -, -, -, hkept⟩ := plain_parameters_adapted_once hplain' hplaced
  have hframe := (hsearched ⟨.findChildElement, by decide, rfl⟩).1
  exact ⟨⟨hframe, hagain .empty none⟩, hplaced, hkept .empty none⟩

end Dialect

end BrowserRemote
