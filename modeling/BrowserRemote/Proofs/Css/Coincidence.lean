import BrowserRemote.Proofs.Css.RoundTrip

/-!
# Proofs/Css/Coincidence — which searches become the same selector

    text ──escape──▸ identifier ──unescape──▸ text, its leading digit an ASCII one

Of a text the escape loses one thing only: which script its leading digit is from (`escape_eq_iff`).
The first character of a selector tells its strategy, since no identifier starts with a special
character (`Legacy.ofSelector_selector`).  So two searches coincide only within one strategy, and
only for texts that differ in the script of a leading digit (`searches_coincide_iff`).
-/

namespace BrowserRemote.Css

/-! ## The backslashes can be undone -/

/-- Every backslash goes, and the character behind it stays. -/
def unescapeSpecial : List Char → List Char
  | [] => []
  | '\\' :: c :: cs => c :: unescapeSpecial cs
  | c :: cs => c :: unescapeSpecial cs

theorem unescapeSpecial_cons {c : Char} (hc : c ≠ '\\') (cs : List Char) :
    unescapeSpecial (c :: cs) = c :: unescapeSpecial cs := by
  rw [unescapeSpecial]
  exact fun _ _ h _ => hc h

theorem ne_backslash_of_not_isSpecial {c : Char} (h : ¬ isSpecial c = true) : c ≠ '\\' := by
  rintro rfl
  exact h (by decide)

/-- **The backslashes of an escaped text can be undone**, whatever characters the text has. -/
theorem unescapeSpecial_escapeSpecial (cs : List Char) :
    unescapeSpecial (escapeSpecial cs) = cs := by
  induction cs with
  | nil => rfl
  | cons c cs ih =>
    by_cases hc : isSpecial c = true
    · rw [escapeSpecial, if_pos hc, unescapeSpecial, ih]
    · rw [escapeSpecial, if_neg hc, unescapeSpecial_cons (ne_backslash_of_not_isSpecial hc), ih]

/-- Behind a backslash stands a special character, so no escaped text starts with the code of a
digit. -/
theorem escapeSpecial_ne_code (cs ds : List Char) : escapeSpecial cs ≠ '\\' :: '3' :: ds := by
  intro h
  cases cs with
  | nil => exact List.cons_ne_nil _ _ h.symm
  | cons c cs =>
    by_cases hc : isSpecial c = true
    · rw [escapeSpecial, if_pos hc] at h
      obtain ⟨rfl, -⟩ := List.cons.inj (List.cons.inj h).2
      exact absurd hc (by decide)
    · rw [escapeSpecial, if_neg hc] at h
      exact ne_backslash_of_not_isSpecial hc (List.cons.inj h).1

/-! ## The code of a leading digit can be undone up to its script -/

/-- The code of a leading digit gives that digit; all other backslashes go. -/
def unescape : List Char → List Char
  | '\\' :: '3' :: c :: ' ' :: cs => c :: unescapeSpecial cs
  | cs => unescapeSpecial cs

/-- The text with a leading digit of any script as the ASCII digit of its value. -/
def asciiLead : List Char → List Char
  | [] => []
  | c :: cs => match Text.digitValue? c with
    | some v => Char.ofNat (0x30 + v) :: cs
    | none => c :: cs

theorem asciiLead_of_digit {c : Char} {v : Nat} (h : Text.digitValue? c = some v)
    (cs : List Char) : asciiLead (c :: cs) = Char.ofNat (0x30 + v) :: cs := by
  rw [asciiLead, h]

theorem asciiLead_of_not_digit {c : Char} (h : Text.digitValue? c = none) (cs : List Char) :
    asciiLead (c :: cs) = c :: cs := by
  rw [asciiLead, h]

theorem asciiLead_cons_ne_nil (c : Char) (cs : List Char) : asciiLead (c :: cs) ≠ [] := by
  cases h : Text.digitValue? c with
  | some v => rw [asciiLead_of_digit h]; exact List.cons_ne_nil _ _
  | none => rw [asciiLead_of_not_digit h]; exact List.cons_ne_nil _ _

/-- The ASCII digit of a value has that value. -/
theorem digitValue?_ofNat {v : Nat} (h : v < 10) :
    Text.digitValue? (Char.ofNat (0x30 + v)) = some v := by
  interval_cases v <;> decide

/-- **What an identifier was made from**, but for the script of a leading digit. -/
theorem unescape_escape (cs : List Char) : unescape (escape cs) = asciiLead cs := by
  cases cs with
  | nil => rfl
  | cons c cs =>
    cases h : Text.digitValue? c with
    | some v =>
      rw [escape_of_digit h, unescape, unescapeSpecial_escapeSpecial, asciiLead_of_digit h]
    | none =>
      rw [escape_of_not_digit h, unescape, unescapeSpecial_escapeSpecial,
        asciiLead_of_not_digit h]
      exact fun _ _ => escapeSpecial_ne_code _ _

/-- The script of a leading digit does not show in an identifier. -/
theorem escape_asciiLead (cs : List Char) : escape (asciiLead cs) = escape cs := by
  cases cs with
  | nil => rfl
  | cons c cs =>
    cases h : Text.digitValue? c with
    | some v =>
      rw [asciiLead_of_digit h, escape_of_digit h,
        escape_of_digit (digitValue?_ofNat (Text.digitValue?_lt h))]
    | none => rw [asciiLead_of_not_digit h]

/-! ## Texts with one identifier -/

/-- Two texts that start with digits of one value, and go on alike. -/
def AlikeButLead (cs ds : List Char) : Prop :=
  ∃ c d v rest, cs = c :: rest ∧ ds = d :: rest
    ∧ Text.digitValue? c = some v ∧ Text.digitValue? d = some v

theorem AlikeButLead.asciiLead_eq {cs ds : List Char} (h : AlikeButLead cs ds) :
    asciiLead cs = asciiLead ds := by
  obtain ⟨c, d, v, rest, rfl, rfl, hc, hd⟩ := h
  rw [asciiLead_of_digit hc, asciiLead_of_digit hd]

/-- A digit in its ASCII form is no character that is no digit. -/
theorem ofNat_digitValue_ne {c d : Char} {v : Nat} (hc : Text.digitValue? c = some v)
    (hd : Text.digitValue? d = none) : Char.ofNat (0x30 + v) ≠ d := by
  rintro rfl
  rw [digitValue?_ofNat (Text.digitValue?_lt hc)] at hd
  exact Option.some_ne_none v hd

theorem alikeButLead_of_asciiLead_eq {c d : Char} {cs ds : List Char}
    (h : asciiLead (c :: cs) = asciiLead (d :: ds)) :
    c :: cs = d :: ds ∨ AlikeButLead (c :: cs) (d :: ds) := by
  cases hc : Text.digitValue? c with
  | some v =>
    rw [asciiLead_of_digit hc] at h
    cases hd : Text.digitValue? d with
    | some w =>
      rw [asciiLead_of_digit hd] at h
      obtain ⟨hlead, rfl⟩ := List.cons.inj h
      have hvalue := congrArg Text.digitValue? hlead
      rw [digitValue?_ofNat (Text.digitValue?_lt hc),
        digitValue?_ofNat (Text.digitValue?_lt hd)] at hvalue
      exact Or.inr ⟨c, d, v, cs, rfl, rfl, hc, hd.trans hvalue.symm⟩
    | none =>
      rw [asciiLead_of_not_digit hd] at h
      exact absurd (List.cons.inj h).1 (ofNat_digitValue_ne hc hd)
  | none =>
    rw [asciiLead_of_not_digit hc] at h
    cases hd : Text.digitValue? d with
    | some w =>
      rw [asciiLead_of_digit hd] at h
      exact absurd (List.cons.inj h).1.symm (ofNat_digitValue_ne hd hc)
    | none =>
      rw [asciiLead_of_not_digit hd] at h
      exact Or.inl h

theorem asciiLead_eq_iff {cs ds : List Char} :
    asciiLead cs = asciiLead ds ↔ cs = ds ∨ AlikeButLead cs ds := by
  constructor
  · intro h
    rcases cs with _ | ⟨c, cs⟩ <;> rcases ds with _ | ⟨d, ds⟩
    · exact Or.inl rfl
    · exact absurd h.symm (asciiLead_cons_ne_nil d ds)
    · exact absurd h (asciiLead_cons_ne_nil c cs)
    · exact alikeButLead_of_asciiLead_eq h
  · rintro (rfl | h)
    · rfl
    · exact h.asciiLead_eq

/-- **The escape loses the script of a leading digit, and nothing else.** -/
theorem escape_eq_iff {cs ds : List Char} :
    escape cs = escape ds ↔ cs = ds ∨ AlikeButLead cs ds := by
  rw [← asciiLead_eq_iff]
  constructor
  · intro h
    rw [← unescape_escape, h, unescape_escape]
  · intro h
    rw [← escape_asciiLead, h, escape_asciiLead]

/-! ## Selectors tell their strategies -/

/-- No identifier starts with a special character, its own backslashes apart. -/
theorem escape_ne_cons {c : Char} (hc : c ≠ '\\') (hspecial : isSpecial c = true)
    (cs ds : List Char) : escape cs ≠ c :: ds := by
  intro h
  cases cs with
  | nil => exact absurd h.symm (List.cons_ne_nil c ds)
  | cons e cs =>
    cases he : Text.digitValue? e with
    | some v =>
      rw [escape_of_digit he] at h
      exact absurd (List.cons.inj h).1.symm hc
    | none =>
      rw [escape_of_not_digit he] at h
      by_cases hplain : isSpecial e = true
      · rw [escapeSpecial, if_pos hplain] at h
        exact absurd (List.cons.inj h).1.symm hc
      · rw [escapeSpecial, if_neg hplain] at h
        obtain ⟨rfl, -⟩ := List.cons.inj h
        exact hplain hspecial

namespace Legacy

/-- The strategy that a selector was made for, by its first character. -/
def ofSelector : List Char → Legacy
  | '.' :: _ => .className
  | '#' :: _ => .id
  | '*' :: _ => .name
  | _ => .tagName

/-- **A selector tells its strategy.** -/
theorem ofSelector_selector (l : Legacy) (cs : List Char) : ofSelector (l.selector cs) = l := by
  cases l with
  | className | id | name => rfl
  | tagName =>
    rw [selector, ofSelector]
    · exact escape_ne_cons (by decide) (by decide) cs
    · exact escape_ne_cons (by decide) (by decide) cs
    · exact escape_ne_cons (by decide) (by decide) cs

/-- **Two selectors coincide** only within one strategy: for a name only if the text is the same,
for all others also if the texts differ in the script of a leading digit. -/
theorem selector_eq_iff {l k : Legacy} {cs ds : List Char} : l.selector cs = k.selector ds ↔
    l = k ∧ (cs = ds ∨ (l ≠ .name ∧ AlikeButLead cs ds)) := by
  constructor
  · intro h
    obtain rfl : l = k := by rw [← ofSelector_selector l cs, h, ofSelector_selector k ds]
    refine ⟨rfl, ?_⟩
    cases l with
    | className | id =>
      exact (escape_eq_iff.1 (List.cons.inj h).2).imp_right fun hlead => ⟨nofun, hlead⟩
    | name => exact Or.inl (List.append_cancel_left (List.append_cancel_right h))
    | tagName => exact (escape_eq_iff.1 h).imp_right fun hlead => ⟨nofun, hlead⟩
  · rintro ⟨rfl, rfl | ⟨hname, hlead⟩⟩
    · rfl
    · have hescape : escape cs = escape ds := escape_eq_iff.2 (Or.inr hlead)
      cases l with
      | className | id | tagName => simp only [selector, hescape]
      | name => exact absurd rfl hname

end Legacy

/-! ## Searches -/

/-- **No two searches are conflated.**  Searches by the older strategies all become searches by
selector; two of them coincide exactly when they have one strategy and one text, or, unless they are
by name, texts that start with digits of one value and go on alike.  In particular the identifiers
of two texts coincide only if the texts do, up to the script of a leading digit. -/
theorem searches_coincide_iff (l k : Legacy) (s t : String) :
    (bySelector (.str l.word) (.str s) = bySelector (.str k.word) (.str t)
      ↔ l = k ∧ (s = t ∨ (l ≠ .name ∧ AlikeButLead s.toList t.toList)))
    ∧ (∃ e : String, bySelector (.str l.word) (.str s) = .ok (.str "css selector", .str e))
    ∧ (escapeOf (.str s) = escapeOf (.str t) ↔ s = t ∨ AlikeButLead s.toList t.toList)
    ∧ ∃ i : String, escapeOf (.str s) = .ok i := by
  refine ⟨?_, ⟨_, bySelector_str l.ofWord?_word s⟩, ?_, _, escapeOf_str s⟩
  · rw [bySelector_str l.ofWord?_word, bySelector_str k.ofWord?_word]
    simp only [Except.ok.injEq, Prod.mk.injEq, Value.str.injEq, true_and, String.ofList_inj,
      Legacy.selector_eq_iff, String.toList_inj]
  · rw [escapeOf_str, escapeOf_str]
    simp only [Except.ok.injEq, String.ofList_inj, escape_eq_iff, String.toList_inj]

/-- The digit 3 of two scripts: one selector by class, two by name. -/
example : Legacy.selector .className ['3', 'a'] = Legacy.selector .className ['٣', 'a']
    ∧ Legacy.selector .name ['3', 'a'] ≠ Legacy.selector .name ['٣', 'a'] := by decide

end BrowserRemote.Css
