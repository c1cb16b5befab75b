import BrowserRemote.Proofs.Script.AtomSource
import BrowserRemote.Script.Quoting
import Mathlib.Data.List.DropRight

/-!
# Proofs/Script/Protection — what escaping the quotes of a script protects, and what it does not

    script ──escapeQuotes──▸ body ──unescapeQuotes──▸ script
                              │
                              └──inside a literal──▸ ends early, or does not

Escaping can be undone, so it keeps scripts apart.  It puts one backslash before every double quote,
and so turns the parity of the run of backslashes before it: read inside a literal, the quote behind
an odd run is the one that ends it (`endsEarly_escapeQuotes`).  The body of an atom's call is its
source, escaped, between two texts without a quote (`escapeQuotes_applied`).
-/

namespace BrowserRemote.Script

/-! ## Runs of backslashes -/

/-- How many backslashes stand at the end of a text. -/
def backslashesAtEnd (cs : List Char) : Nat := (cs.rtakeWhile (· == '\\')).length

theorem backslashesAtEnd_concat (cs : List Char) (c : Char) :
    backslashesAtEnd (cs ++ [c]) = if c = '\\' then backslashesAtEnd cs + 1 else 0 := by
  rw [backslashesAtEnd, List.rtakeWhile_concat]
  simp only [beq_iff_eq]
  split
  · rw [List.length_append, backslashesAtEnd]
    rfl
  · rfl

/-- **A double quote stands behind an odd run**: an odd number of backslashes is right before it. -/
def QuoteBehindOddRun (cs : List Char) : Prop :=
  ∃ before after, cs = before ++ '"' :: after ∧ backslashesAtEnd before % 2 = 1

/-- The parity of the run at the end turns with each backslash, and any other character ends the
run. -/
theorem odd_backslashesAtEnd_concat (cs : List Char) (c : Char) :
    (backslashesAtEnd (cs ++ [c]) % 2 == 1)
      = (c == '\\' && !(backslashesAtEnd cs % 2 == 1)) := by
  rw [backslashesAtEnd_concat]
  by_cases hc : c = '\\'
  · rw [if_pos hc, hc]
    rcases Nat.mod_two_eq_zero_or_one (backslashesAtEnd cs) with h | h <;> simp [Nat.add_mod, h]
  · rw [if_neg hc, beq_false_of_ne hc]
    rfl

/-- Behind what has been read, a quote is found by the parity of the run before it. -/
theorem hasOddQuote_iff_split (read cs : List Char) :
    hasOddQuote (backslashesAtEnd read % 2 == 1) cs = true
      ↔ ∃ before after, cs = before ++ '"' :: after
        ∧ backslashesAtEnd (read ++ before) % 2 = 1 := by
  induction cs generalizing read with
  | nil =>
    refine ⟨nofun, fun ⟨before, after, hsplit, _⟩ => ?_⟩
    exact absurd hsplit.symm
      (List.append_ne_nil_of_right_ne_nil before (List.cons_ne_nil '"' after))
  | cons c cs ih =>
    rw [hasOddQuote, ← odd_backslashesAtEnd_concat, Bool.or_eq_true, ih, Bool.and_eq_true,
      beq_iff_eq, beq_iff_eq]
    constructor
    · rintro (⟨hodd, rfl⟩ | ⟨before, after, rfl, hodd⟩)
      · exact ⟨[], cs, rfl, by rwa [List.append_nil]⟩
      · exact ⟨c :: before, after, rfl, by rwa [List.append_assoc] at hodd⟩
    · rintro ⟨before, after, hsplit, hodd⟩
      cases before with
      | nil =>
        obtain ⟨rfl, rfl⟩ := List.cons.inj hsplit
        exact Or.inl ⟨by rwa [List.append_nil] at hodd, rfl⟩
      | cons d before =>
        obtain ⟨rfl, rfl⟩ := List.cons.inj hsplit
        exact Or.inr ⟨before, after, rfl, by rwa [List.append_assoc]⟩

/-- **The scan for a quote behind an odd run** finds one if there is one. -/
theorem hasOddQuote_iff (cs : List Char) : hasOddQuote false cs = true ↔ QuoteBehindOddRun cs :=
  hasOddQuote_iff_split [] cs

/-- **Escaped quotes in a literal.**  A backslash is at work before a character of the script
exactly if the run before it is odd, and then the one put before a quote is taken in its place. -/
theorem endsEarly_escapeQuotes (odd : Bool) (cs : List Char) :
    endsEarly odd (escapeQuotes cs) = hasOddQuote odd cs := by
  induction cs generalizing odd with
  | nil => cases odd <;> rfl
  | cons c cs ih =>
    by_cases hc : c = '"'
    · subst hc
      rw [escapeQuotes, if_pos rfl]
      cases odd with
      | true => rfl
      | false =>
        change endsEarly false (escapeQuotes cs) = hasOddQuote false cs
        exact ih false
    · rw [escapeQuotes, if_neg hc, hasOddQuote, beq_false_of_ne hc, Bool.and_false, Bool.false_or]
      cases odd with
      | true => rw [endsEarly, ih, Bool.not_true, Bool.and_false]
      | false =>
        rw [endsEarly, ih, beq_false_of_ne hc, Bool.false_or, Bool.not_false, Bool.and_true]

/-! ## The body of an atom's call -/

theorem escapeQuotes_append (cs ds : List Char) :
    escapeQuotes (cs ++ ds) = escapeQuotes cs ++ escapeQuotes ds := by
  induction cs with
  | nil => rfl
  | cons c cs ih =>
    rw [List.cons_append, escapeQuotes, escapeQuotes, ih]
    split <;> rfl

/-- What stands before the source in the body of an atom's call. -/
def opening : String := "return ("

/-- What stands behind it. -/
def closing : String := ").apply(null, arguments);"

/-- **The escaped body of an atom's call** is its escaped source between the two, which have no
quotes. -/
theorem escapeQuotes_applied (source : String) :
    escapeQuotes (applied source).toList
      = opening.toList ++ escapeQuotes source.toList ++ closing.toList := by
  have hopening : escapeQuotes opening.toList = opening.toList := by decide
  have hclosing : escapeQuotes closing.toList = closing.toList := by decide
  have hbody : (applied source).toList = opening.toList ++ source.toList ++ closing.toList := by
    rw [applied, String.toList_append, String.toList_append]
    rfl
  rw [hbody, escapeQuotes_append, escapeQuotes_append, hopening, hclosing]

/-- **The source in the body of an atom's call**: what is between the two, not escaped. -/
def sourceIn (body : String) : String :=
  String.ofList
    (unescapeQuotes ((body.toList.drop opening.toList.length).rdrop closing.toList.length))

theorem body_call_applied (source : String) (args : List Value) :
    (call (applied source) args).body = opening ++ (call source []).body ++ closing := by
  rw [call, call, ← String.toList_inj, String.toList_append, String.toList_append,
    String.toList_ofList, String.toList_ofList, escapeQuotes_applied]

/-- The source is read back from the body. -/
theorem sourceIn_call_applied (source : String) (args : List Value) :
    sourceIn (call (applied source) args).body = source := by
  rw [sourceIn, call, String.toList_ofList, escapeQuotes_applied, List.append_assoc,
    List.drop_left, List.rdrop, List.length_append, Nat.add_sub_cancel, List.take_left,
    unescapeQuotes_escapeQuotes, String.ofList_toList]

/-- **A text for a source** makes the call of the body that applies it. -/
theorem outcome_callAtom_of_text {files : FileTree} {atoms : Option Repository} {name : Value}
    {source : String} (h : (sourceFrom files atoms name).outcome = .ok (.str source))
    (args : List Value) :
    (callAtom files atoms name args).outcome = .ok (call (applied source) args) := by
  rw [callAtom_eq, atomBody_of_source h]
  rfl

/-! ## What quoting keeps and what it protects -/

theorem unescapeQuotes_body_call (script : String) (args : List Value) :
    unescapeQuotes (call script args).body.toList = script.toList := by
  rw [call, String.toList_ofList, unescapeQuotes_escapeQuotes]

theorem endsEarly_body_call_iff (script : String) (args : List Value) :
    endsEarly false (call script args).body.toList = true ↔ QuoteBehindOddRun script.toList := by
  rw [call, String.toList_ofList, endsEarly_escapeQuotes, hasOddQuote_iff]

theorem eq_of_body_call_eq {script other : String} {args others : List Value}
    (h : (call other others).body = (call script args).body) : other = script := by
  rw [← String.toList_inj, ← unescapeQuotes_body_call other others, h, unescapeQuotes_body_call]

/-- **Quoting is reversible, and protects by parity.**  The script of a call is read back from its
body, so no two scripts have one body; and the body, read inside a literal in double quotes, ends it
early exactly when the script has a quote behind an odd run of backslashes.  The body of an atom's
call is made by placing the quoted source, whatever text it is, between two fixed texts; the source
is read back from it, so no two sources give one body. -/
theorem quoting_reversible :
    (∀ (script : String) (args : List Value), ∃ quoted : Call,
      callOf (.str script) args = .ok quoted
      ∧ unescapeQuotes quoted.body.toList = script.toList
      ∧ (endsEarly false quoted.body.toList = true ↔ QuoteBehindOddRun script.toList)
      ∧ ∀ (other : String) (others : List Value) (quoted' : Call),
        callOf (.str other) others = .ok quoted' → quoted'.body = quoted.body → other = script)
    ∧ ∀ (files : FileTree) (atoms : Option Repository) (name : Value) (args : List Value)
      (source : String), (sourceFrom files atoms name).outcome = .ok (.str source) →
      ∃ quoted applying : Call, callOf (.str source) [] = .ok quoted
        ∧ (callAtom files atoms name args).outcome = .ok applying
        ∧ applying.body = "return (" ++ quoted.body ++ ").apply(null, arguments);"
        ∧ applying.args = args.map toWire
        ∧ sourceIn applying.body = source
        ∧ ∀ (files' : FileTree) (atoms' : Option Repository) (name' : Value) (args' : List Value)
          (source' : String) (applying' : Call),
          (sourceFrom files' atoms' name').outcome = .ok (.str source') →
          (callAtom files' atoms' name' args').outcome = .ok applying' →
          applying'.body = applying.body → source' = source := by
  constructor
  · intro script args
    refine ⟨call script args, rfl, unescapeQuotes_body_call script args,
      endsEarly_body_call_iff script args, ?_⟩
    rintro other others _ ⟨⟩ hbody
    exact eq_of_body_call_eq hbody
  · intro files atoms name args source hsource
    refine ⟨call source [], call (applied source) args, rfl, outcome_callAtom_of_text hsource args,
      body_call_applied source args, rfl, sourceIn_call_applied source args, ?_⟩
    intro files' atoms' name' args' source' applying' hsource' happlying' hbody
    rw [outcome_callAtom_of_text hsource' args'] at happlying'
    obtain rfl := Except.ok.inj happlying'
    rw [← sourceIn_call_applied source' args', hbody, sourceIn_call_applied]

/-- Behind one backslash a quote ends the literal, behind two it does not. -/
example : endsEarly false (call "\\\"" []).body.toList = true
    ∧ endsEarly false (call "\\\\\"" []).body.toList = false := by decide

end BrowserRemote.Script
