import BrowserRemote.Css.Reader
import Mathlib

/-!
# Proofs/Css/RoundTrip — which texts come back from their identifiers

    text ──escape──▸ identifier ──readIdentifier──▸ text

The reader of `Css/Reader` gives back an escaped text exactly when the text is `Expressible`: it is
not empty, none of its characters is a blank, a control or another ASCII character that is neither
special nor part of a word, and it does not start with a foreign digit, which the escape turns into
the ASCII digit of the same value.
-/

namespace BrowserRemote.Css

/-! ## Texts that an identifier can say -/

/-- A character that an escaped text can hold: a special one, behind its backslash, or one that
stands for itself. -/
def Sayable (c : Char) : Prop :=
  isSpecial c = true ∨ isAsciiLetter c = true ∨ isAsciiDigit c = true ∨ c = '_' ∨ 0x80 ≤ c.toNat

instance (c : Char) : Decidable (Sayable c) := by unfold Sayable; infer_instance

/-- **A text that an identifier can say.** -/
structure Expressible (cs : List Char) : Prop where
  nonempty : cs ≠ []
  sayable : ∀ c ∈ cs, Sayable c
  /-- A leading digit of any script is an ASCII digit. -/
  lead : ∀ c ∈ cs.head?, Text.isDigit c = true → isAsciiDigit c = true

/-! ## Special characters, read behind their backslash -/

theorem mem_specialCharacters {c : Char} : c ∈ specialCharacters ↔ isSpecial c = true :=
  List.contains_iff_mem.symm

theorem hexValue?_of_isSpecial {c : Char} (h : isSpecial c = true) : Text.hexValue? c = none := by
  have table : (specialCharacters.all fun d => (Text.hexValue? d).isNone) = true := by decide
  exact Option.isNone_iff_eq_none.1 (List.all_eq_true.1 table c (mem_specialCharacters.2 h))

theorem isNewline_of_isSpecial {c : Char} (h : isSpecial c = true) : isNewline c = false := by
  have table : (specialCharacters.all fun d => !isNewline d) = true := by decide
  exact Bool.eq_false_of_not_eq_true' (List.all_eq_true.1 table c (mem_specialCharacters.2 h))

theorem digitValue?_of_isSpecial {c : Char} (h : isSpecial c = true) :
    Text.digitValue? c = none := by
  have table : (specialCharacters.all fun d => (Text.digitValue? d).isNone) = true := by decide
  exact Option.isNone_iff_eq_none.1 (List.all_eq_true.1 table c (mem_specialCharacters.2 h))

/-- **An escaped special character is read as itself.** -/
theorem readIdentifierFrom_special {c : Char} (h : isSpecial c = true) (cs : List Char) :
    readIdentifierFrom .between ('\\' :: c :: cs)
      = (c :: ·) <$> readIdentifierFrom .between cs := by
  rw [readIdentifierFrom, if_pos rfl, readIdentifierFrom, hexValue?_of_isSpecial h]
  simp only [isNewline_of_isSpecial h, Bool.false_eq_true, if_false]

/-! ## All other characters stand as they are -/

/-- Of the characters without a backslash, the reader takes the sayable ones. -/
theorem isIdentifierChar_iff {c : Char} (h : isSpecial c = false) :
    isIdentifierChar c = true ↔ Sayable c := by
  have hdash : c ≠ '-' := fun e => absurd h (by rw [e]; decide)
  simp only [isIdentifierChar, Sayable, h, Bool.or_eq_true, beq_iff_eq, decide_eq_true_eq, hdash,
    Bool.false_eq_true, or_false, false_or, or_assoc]

theorem readIdentifierFrom_plain {c : Char} (h : isSpecial c = false) (cs : List Char) :
    readIdentifierFrom .between (c :: cs)
      = if Sayable c then (c :: ·) <$> readIdentifierFrom .between cs else none := by
  have hslash : c ≠ '\\' := fun e => absurd h (by rw [e]; decide)
  rw [readIdentifierFrom, if_neg hslash]
  simp only [isIdentifierChar_iff h]

/-- One character of an escaped text, special or not. -/
theorem readIdentifierFrom_escapeSpecial_cons (c : Char) (cs : List Char) :
    readIdentifierFrom .between (escapeSpecial (c :: cs))
      = if Sayable c then (c :: ·) <$> readIdentifierFrom .between (escapeSpecial cs)
        else none := by
  cases h : isSpecial c with
  | true =>
    have hsay : Sayable c := Or.inl h
    rw [escapeSpecial, if_pos h, readIdentifierFrom_special h, if_pos hsay]
  | false =>
    have hplain : ¬ isSpecial c = true := by rw [h]; decide
    rw [escapeSpecial, if_neg hplain, readIdentifierFrom_plain h]

/-- **The reader undoes the backslashes** of a text it can say, and gives up on any other. -/
theorem readIdentifierFrom_escapeSpecial (cs : List Char) :
    readIdentifierFrom .between (escapeSpecial cs)
      = if ∀ c ∈ cs, Sayable c then some cs else none := by
  induction cs with
  | nil => simp [readIdentifierFrom]
  | cons c cs ih =>
    rw [readIdentifierFrom_escapeSpecial_cons, ih]
    by_cases hc : Sayable c
    · by_cases hcs : ∀ d ∈ cs, Sayable d
      · have hall : ∀ d ∈ c :: cs, Sayable d := List.forall_mem_cons.2 ⟨hc, hcs⟩
        rw [if_pos hc, if_pos hcs, if_pos hall]
        rfl
      · have hnot : ¬ ∀ d ∈ c :: cs, Sayable d := fun h => hcs (List.forall_mem_cons.1 h).2
        rw [if_pos hc, if_neg hcs, if_neg hnot]
        rfl
    · have hnot : ¬ ∀ d ∈ c :: cs, Sayable d := fun h => hc (List.forall_mem_cons.1 h).1
      rw [if_neg hc, if_neg hnot]

/-! ## A leading digit, read as the code it was turned into -/

theorem isAsciiDigit_iff {c : Char} :
    isAsciiDigit c = true ↔ 0x30 ≤ c.toNat ∧ c.toNat < 0x30 + 10 := by
  simp only [isAsciiDigit, Bool.and_eq_true, decide_eq_true_eq, Char.le_def,
    UInt32.le_iff_toNat_le]
  exact and_congr Iff.rfl Nat.lt_succ_iff.symm

/-- An ASCII digit is worth its distance from `0`. -/
theorem digitValue?_of_isAsciiDigit {c : Char} (h : isAsciiDigit c = true) :
    Text.digitValue? c = some (c.toNat - 0x30) := by
  have hc := isAsciiDigit_iff.1 h
  rw [Text.digitValue?, Text.digitZeros, Text.placeInRun, if_pos (by simp [hc])]

theorem isAsciiDigit_ofNat {v : Nat} (h : v < 10) :
    isAsciiDigit (Char.ofNat (0x30 + v)) = true := by
  interval_cases v <;> decide

/-- **Exactly the ASCII digits** are the digit that their value is written by. -/
theorem ofNat_digitValue_eq_iff {c : Char} {v : Nat} (h : Text.digitValue? c = some v) :
    Char.ofNat (0x30 + v) = c ↔ isAsciiDigit c = true := by
  constructor
  · intro e
    rw [← e]
    exact isAsciiDigit_ofNat (Text.digitValue?_lt h)
  · intro hc
    have hv : c.toNat - 0x30 = v :=
      Option.some.inj ((digitValue?_of_isAsciiDigit hc).symm.trans h)
    rw [← hv, Nat.add_sub_cancel' (isAsciiDigit_iff.1 hc).1, Char.ofNat_toNat]

/-- The code of a digit takes no digit of the text behind it: the space ends it. -/
theorem readIdentifier_code {v : Nat} (h : v < 10) (cs : List Char) :
    readIdentifier ('\\' :: '3' :: Char.ofNat (0x30 + v) :: ' ' :: cs)
      = (Char.ofNat (0x30 + v) :: ·) <$> readIdentifierFrom .between cs := by
  interval_cases v <;> rfl

/-- A text that starts with a digit, escaped. -/
theorem escape_of_digit {c : Char} {v : Nat} (h : Text.digitValue? c = some v) (cs : List Char) :
    escape (c :: cs) = '\\' :: '3' :: Char.ofNat (0x30 + v) :: ' ' :: escapeSpecial cs := by
  have hplain : ¬ isSpecial c = true := fun hs => by
    rw [digitValue?_of_isSpecial hs] at h
    cases h
  rw [escape, escapeSpecial, if_neg hplain, escapeLeadingDigit, h]

/-- A text that starts with anything else, escaped. -/
theorem escape_of_not_digit {c : Char} (h : Text.digitValue? c = none) (cs : List Char) :
    escape (c :: cs) = escapeSpecial (c :: cs) := by
  have hslash : Text.digitValue? '\\' = none := by decide
  rw [escape, escapeSpecial]
  split <;> simp only [escapeLeadingDigit, h, hslash]

/-- Behind no leading digit, reading starts between characters. -/
theorem readIdentifier_escapeSpecial {c : Char} (h : Text.digitValue? c = none)
    (cs : List Char) :
    readIdentifier (escapeSpecial (c :: cs))
      = readIdentifierFrom .between (escapeSpecial (c :: cs)) := by
  have hc : ¬ isAsciiDigit c = true := fun hd => by
    rw [digitValue?_of_isAsciiDigit hd] at h
    cases h
  rw [escapeSpecial]
  split
  · rfl
  · rw [readIdentifier, if_neg hc]

/-! ## The round trip -/

/-- A text that starts with a digit comes back if that digit is an ASCII one and the rest is
sayable. -/
theorem readIdentifier_escape_of_digit {c : Char} {v : Nat} (h : Text.digitValue? c = some v)
    (cs : List Char) :
    readIdentifier (escape (c :: cs)) = some (c :: cs)
      ↔ isAsciiDigit c = true ∧ ∀ d ∈ cs, Sayable d := by
  rw [escape_of_digit h, readIdentifier_code (Text.digitValue?_lt h),
    readIdentifierFrom_escapeSpecial]
  by_cases hcs : ∀ d ∈ cs, Sayable d
  · rw [if_pos hcs, Option.map_eq_map, Option.map_some, Option.some.injEq, List.cons.injEq,
      ofNat_digitValue_eq_iff h]
    exact and_congr_right fun _ => ⟨fun _ => hcs, fun _ => rfl⟩
  · rw [if_neg hcs]
    exact ⟨nofun, fun hex => absurd hex.2 hcs⟩

/-- A text that starts with anything else comes back if it is sayable. -/
theorem readIdentifier_escape_of_not_digit {c : Char} (h : Text.digitValue? c = none)
    (cs : List Char) :
    readIdentifier (escape (c :: cs)) = some (c :: cs) ↔ ∀ d ∈ c :: cs, Sayable d := by
  rw [escape_of_not_digit h, readIdentifier_escapeSpecial h, readIdentifierFrom_escapeSpecial]
  split
  · next hcs => exact ⟨fun _ => hcs, fun _ => rfl⟩
  · next hcs => exact ⟨nofun, fun hex => absurd hex hcs⟩

/-- **An escaped text is read back exactly when it is expressible.** -/
theorem readIdentifier_escape (cs : List Char) :
    readIdentifier (escape cs) = some cs ↔ Expressible cs := by
  cases cs with
  | nil => exact ⟨nofun, fun h => absurd rfl h.nonempty⟩
  | cons c cs =>
    cases h : Text.digitValue? c with
    | some v =>
      have hdigit : Text.isDigit c = true := by rw [Text.isDigit, h]; rfl
      rw [readIdentifier_escape_of_digit h]
      constructor
      · rintro ⟨hc, hcs⟩
        have hsay : Sayable c := Or.inr (Or.inr (Or.inl hc))
        refine ⟨List.cons_ne_nil c cs, List.forall_mem_cons.2 ⟨hsay, hcs⟩, fun d hd _ => ?_⟩
        obtain rfl : c = d := Option.some.inj hd
        exact hc
      · intro hex
        exact ⟨hex.lead c rfl hdigit, (List.forall_mem_cons.1 hex.sayable).2⟩
    | none =>
      rw [readIdentifier_escape_of_not_digit h]
      refine ⟨fun hcs => ⟨List.cons_ne_nil c cs, hcs, fun d hd hdigit => ?_⟩,
        fun hex => hex.sayable⟩
      obtain rfl : c = d := Option.some.inj hd
      rw [Text.isDigit, h] at hdigit
      cases hdigit

/-- A digit of another script comes back as the ASCII digit of its value. -/
example : readIdentifier (escape ['٣', 'a']) = some ['3', 'a'] := by decide

/-! ## Searches -/

/-- A search by one of the older strategies becomes a search by its selector. -/
theorem bySelector_str {word : String} {l : Legacy} (h : Legacy.ofWord? word = some l)
    (s : String) :
    bySelector (.str word) (.str s)
      = .ok (.str selectorStrategy, .str (String.ofList (l.selector s.toList))) := by
  rw [bySelector, Legacy.ofValue?, h]
  simp only [Legacy.selectorOf_str]
  rfl

/-- **A search by class, identifier or tag looks for the text it was given**: a text has an
identifier, the selectors are made from it, and it says that text exactly when the text is
expressible. -/
theorem selector_says_text_iff (s : String) :
    ∃ e : String, escapeOf (.str s) = .ok e
      ∧ (readIdentifier e.toList = some s.toList ↔ Expressible s.toList)
      ∧ bySelector (.str "class name") (.str s) = .ok (.str "css selector", .str ("." ++ e))
      ∧ bySelector (.str "id") (.str s) = .ok (.str "css selector", .str ("#" ++ e))
      ∧ bySelector (.str "tag name") (.str s) = .ok (.str "css selector", .str e) := by
  have hdot : "." ++ String.ofList (escape s.toList)
      = String.ofList (Legacy.selector .className s.toList) := String.ofList_append.symm
  have hhash : "#" ++ String.ofList (escape s.toList)
      = String.ofList (Legacy.selector .id s.toList) := String.ofList_append.symm
  refine ⟨String.ofList (escape s.toList), escapeOf_str s, ?_, ?_, ?_, ?_⟩
  · rw [String.toList_ofList]
    exact readIdentifier_escape s.toList
  · rw [hdot]
    exact bySelector_str rfl s
  · rw [hhash]
    exact bySelector_str rfl s
  · exact bySelector_str (l := .tagName) rfl s

end BrowserRemote.Css
