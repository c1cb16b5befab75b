import BrowserRemote.Proofs.Css.RoundTrip

/-!
# Proofs/Css/QuotedName — which names come back from their selectors

    name ──"*[name='" … "']"──▸ selector ──readName──▸ name

A name stands in its selector as it is.  Characters without a meaning inside quotes are read as
themselves (`readNameFrom_plain`), and a name of such characters comes back.  Any other one does
not: at the first newline or quote the reader gives up, and behind a backslash what comes out is too
short (`fitsIn_readNameFrom`).
-/

namespace BrowserRemote.Css

/-! ## Names without a meaning -/

/-- A character that stands for itself inside quotes. -/
def StandsForItself (c : Char) : Prop := c ≠ '\'' ∧ c ≠ '\\' ∧ isNewline c = false

/-- A character that stands for itself is read as itself. -/
theorem readNameFrom_plain {c : Char} (h : StandsForItself c) (cs : List Char) :
    readNameFrom .between (c :: cs) = (c :: ·) <$> readNameFrom .between cs := by
  obtain ⟨hquote, hslash, hnewline⟩ := h
  rw [readNameFrom, if_neg hquote, if_neg hslash, if_neg (ne_true_of_eq_false hnewline)]

/-! ## What is read is shorter than what is written -/

/-- What is read, if anything is, leaves room for the closing. -/
def FitsIn (length : Nat) (read : Option (List Char)) : Prop :=
  ∀ out, read = some out → out.length + 2 ≤ length

namespace FitsIn

variable {length : Nat} {read : Option (List Char)}

theorem none : FitsIn length none := nofun

theorem mono {length' : Nat} (h : FitsIn length read) (hle : length ≤ length') :
    FitsIn length' read := fun out hout => (h out hout).trans hle

/-- One more character takes one more place. -/
theorem cons (h : FitsIn length read) (c : Char) :
    FitsIn (length + 1) ((c :: ·) <$> read) := by
  intro out hout
  obtain ⟨rest, hrest, rfl⟩ := Option.map_eq_some_iff.1 hout
  exact Nat.succ_le_succ (h rest hrest)

/-- The closing fits in itself. -/
theorem closing {cs : List Char} :
    FitsIn (cs.length + 1) (if cs = [']'] then some [] else Option.none) := by
  split
  · next hcs =>
    rintro _ ⟨⟩
    exact hcs ▸ Nat.le_refl 2
  · exact none

end FitsIn

/-- How many characters a reader owes: inside a code, the character of that code. -/
def Reading.owed : Reading → Nat
  | .code _ _ => 1
  | .between | .escaped => 0

/-- **What is read leaves room for the closing**, but for a character that is owed: behind a
backslash a character is taken for none, and a code for one. -/
theorem fitsIn_readNameFrom (state : Reading) (cs : List Char) :
    FitsIn (cs.length + state.owed) (readNameFrom state cs) := by
  fun_induction readNameFrom state cs with
  | case1 | case3 | case5 => exact .none
  | case2 => exact .closing
  | case4 cs _ ih => exact ih.mono (Nat.le_succ _)
  | case6 c cs _ _ _ ih => exact ih.cons c
  | case7 c cs v _ ih => exact ih
  | case8 c cs _ _ ih => exact ih.mono (Nat.le_succ _)
  | case9 c cs _ _ ih => exact ih.cons c
  | case10 value c cs room v _ ih => exact ih.mono (Nat.le_succ _)
  | case11 value room c cs _ hbetween hescaped =>
    refine .cons ?_ _
    split
    · exact hbetween.mono (Nat.le_succ _)
    split
    · exact .closing
    split
    · exact hescaped.mono (Nat.le_succ _)
    · exact hbetween.cons c

/-! ## Names and their selectors -/

/-- **A name that starts with any other character does not come back**: a quote ends it before that
character, a newline is refused, and behind a backslash too little comes out. -/
theorem readNameFrom_ne {c : Char} (hc : ¬ StandsForItself c) (cs : List Char) :
    readNameFrom .between (c :: cs ++ Legacy.nameClosing) ≠ some (c :: cs) := by
  intro hread
  rw [List.cons_append, readNameFrom] at hread
  split at hread
  · split at hread <;> cases hread
  next hquote =>
  split at hread
  · have hfits := fitsIn_readNameFrom .escaped (cs ++ Legacy.nameClosing) _ hread
    rw [List.length_append, List.length_cons] at hfits
    have hclosing : Legacy.nameClosing.length = 2 := rfl
    have howed : Reading.escaped.owed = 0 := rfl
    omega
  next hslash =>
  split at hread
  · cases hread
  next hnewline =>
  exact hc ⟨hquote, hslash, eq_false_of_ne_true hnewline⟩

/-- **Names of characters that stand for themselves** come back, and no others. -/
theorem readNameFrom_eq_iff (cs : List Char) :
    readNameFrom .between (cs ++ Legacy.nameClosing) = some cs ↔ ∀ c ∈ cs, StandsForItself c := by
  induction cs with
  | nil => exact ⟨fun _ => nofun, fun _ => rfl⟩
  | cons c cs ih =>
    rw [List.forall_mem_cons]
    by_cases hc : StandsForItself c
    · rw [List.cons_append, readNameFrom_plain hc, ← ih]
      constructor
      · intro hread
        obtain ⟨out, hout, hsame⟩ := Option.map_eq_some_iff.1 hread
        obtain rfl := (List.cons.inj hsame).2
        exact ⟨hc, hout⟩
      · rintro ⟨-, hread⟩
        rw [hread]
        rfl
    · exact ⟨fun hread => absurd hread (readNameFrom_ne hc cs), fun h => absurd h.1 hc⟩

/-- What stands before a name is no part of it. -/
theorem readName_selector (cs : List Char) :
    readName (Legacy.selector .name cs) = readNameFrom .between (cs ++ Legacy.nameClosing) := by
  have hopening :
      Legacy.nameOpening.isPrefixOf (Legacy.nameOpening ++ (cs ++ Legacy.nameClosing)) :=
    List.isPrefixOf_iff_prefix.2 (List.prefix_append _ _)
  rw [readName, Legacy.selector, List.append_assoc, if_pos hopening, List.drop_left]

theorem standForThemselves_iff {cs : List Char} : (∀ c ∈ cs, StandsForItself c)
    ↔ '\'' ∉ cs ∧ '\\' ∉ cs ∧ '\n' ∉ cs ∧ '\r' ∉ cs ∧ '\x0c' ∉ cs := by
  constructor
  · intro h
    have hnewline {d : Char} (hd : isNewline d = true) : d ∉ cs := fun hc =>
      ne_true_of_eq_false (h d hc).2.2 hd
    exact ⟨fun hc => (h _ hc).1 rfl, fun hc => (h _ hc).2.1 rfl, hnewline rfl, hnewline rfl,
      hnewline rfl⟩
  · rintro ⟨hquote, hslash, hlineFeed, hreturn, hformFeed⟩ c hc
    have hne {d : Char} (hd : d ∉ cs) : c ≠ d := fun heq => hd (heq ▸ hc)
    refine ⟨hne hquote, hne hslash, ?_⟩
    simp [isNewline, hne hlineFeed, hne hreturn, hne hformFeed]

/-- **When a search by name looks for the name it was given.**  Its selector holds the name as it
is, and says that very name exactly if there is no quote, no backslash and no newline in it. -/
theorem name_selector_faithful_iff (s : String) :
    ∃ selector : String,
      bySelector (.str "name") (.str s) = .ok (.str "css selector", .str selector)
      ∧ selector = "*[name='" ++ s ++ "']"
      ∧ (readName selector.toList = some s.toList
        ↔ '\'' ∉ s.toList ∧ '\\' ∉ s.toList ∧ '\n' ∉ s.toList ∧ '\r' ∉ s.toList
          ∧ '\x0c' ∉ s.toList) := by
  refine ⟨String.ofList (Legacy.selector .name s.toList), bySelector_str (l := .name) rfl s, ?_, ?_⟩
  · rw [← String.toList_inj, String.toList_ofList, String.toList_append, String.toList_append]
    rfl
  · rw [String.toList_ofList, readName_selector, readNameFrom_eq_iff, standForThemselves_iff]

/-- A code in a name is read as its character, and a quote leaves no well-formed selector. -/
example : readName (Legacy.selector .name "\\41 b".toList) = some ['A', 'b']
    ∧ readName (Legacy.selector .name "a']".toList) = none := by decide

end BrowserRemote.Css
