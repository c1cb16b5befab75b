import BrowserRemote.Route.Decomposition

/-!
# Proofs/Route/Decomposition — taking a path apart decomposes it

Each character in front keeps the pieces well cut (`wellCut_extend`): a colon turns the word behind
it into a placeholder, which ends where that word does, and every other character joins a literal.
So the pieces of a path are a decomposition of it, and any other decomposition is taken apart into
the same pieces again (`decomposes_iff`).
-/

namespace BrowserRemote.Route

/-! ## A path taken apart is decomposed -/

/-- What follows the longest word at the start of characters does not go on with it. -/
theorem stopsWord_dropWhile_append {after : List Char} (h : StopsWord after) (cs : List Char) :
    StopsWord (cs.dropWhile Text.isWord ++ after) := by
  intro c hc
  have hstop := List.head?_dropWhile_not Text.isWord cs
  rcases hrest : cs.dropWhile Text.isWord with _ | ⟨d, ds⟩
  · rw [hrest] at hc
    exact h c hc
  · rw [hrest] at hc hstop
    obtain rfl : d = c := Option.some.inj hc
    exact hstop

theorem stopsWord_of_takeWhile_eq_nil {cs after : List Char} (hcs : cs ≠ [])
    (h : cs.takeWhile Text.isWord = []) : StopsWord (cs ++ after) := by
  obtain ⟨d, ds, rfl⟩ := List.exists_cons_of_ne_nil hcs
  intro c hc
  obtain rfl : d = c := Option.some.inj hc
  rw [List.takeWhile_cons] at h
  split at h
  · exact absurd h (List.cons_ne_nil _ _)
  · next hd => exact Bool.eq_false_iff.2 hd

/-- Pieces that start with no literal start with no word. -/
theorem stopsWord_source {ps : List Piece} (h : ∀ p ∈ ps.head?, ∀ ds, p ≠ .literal ds) :
    StopsWord (ps.flatMap Piece.source) := by
  rcases ps with _ | ⟨ds | name, ps⟩
  · exact fun c hc => absurd hc nofun
  · exact absurd rfl (h (.literal ds) rfl ds)
  · intro c hc
    obtain rfl : ':' = c := Option.some.inj hc
    decide

theorem noSlotIn_of_append {cs ds after : List Char} (h : NoSlotIn (cs ++ ds) after) :
    NoSlotIn ds after := by
  induction cs with
  | nil => exact h
  | cons c cs ih => exact ih h.2

theorem slot_apart (name : List Char) (ps : List Piece) :
    ∀ p ∈ (Piece.slot name :: ps).head?, ∀ ds, p ≠ .literal ds := by
  rintro _ ⟨⟩ ds
  exact nofun

/-- A literal cut short stays in front. -/
theorem wellCut_literalThen {cs : List Char} {ps : List Piece} (hps : WellCut ps)
    (apart : ∀ p ∈ ps.head?, ∀ ds, p ≠ .literal ds)
    (noSlot : NoSlotIn cs (ps.flatMap Piece.source)) : WellCut (literalThen cs ps) := by
  rcases cs with _ | ⟨c, cs⟩
  · exact hps
  · exact .literal (List.cons_ne_nil c cs) apart noSlot hps

/-- A character in front of pieces that start with no literal is a literal of its own. -/
theorem wellCut_single (c : Char) {ps : List Piece} (hps : WellCut ps)
    (apart : ∀ p ∈ ps.head?, ∀ ds, p ≠ .literal ds) : WellCut (.literal [c] :: ps) :=
  .literal (List.cons_ne_nil c []) apart ⟨fun _ => stopsWord_source apart, trivial⟩ hps

/-- **One more character in front keeps pieces well cut.** -/
theorem wellCut_extend (c : Char) : ∀ {ps : List Piece}, WellCut ps → WellCut (extend c ps)
  | [], h => wellCut_single c h nofun
  | .slot name :: ps, h => wellCut_single c h (slot_apart name ps)
  | .literal cs :: ps, .literal nonempty apart noSlot rest => by
    rw [extend]
    split
    · next hcolon =>
      have hword : ∀ d ∈ cs.takeWhile Text.isWord, Text.isWord d = true :=
        List.all_eq_true.1 List.all_takeWhile
      have hmaximal := stopsWord_dropWhile_append (stopsWord_source apart) cs
      rw [← flatMap_source_literalThen] at hmaximal
      rw [← List.takeWhile_append_dropWhile (p := Text.isWord) (l := cs)] at noSlot
      exact .slot hcolon.2 hword hmaximal
        (wellCut_literalThen rest apart (noSlotIn_of_append noSlot))
    · next hcolon =>
      refine .literal (List.cons_ne_nil c cs) apart ⟨fun hc => ?_, noSlot⟩ rest
      exact stopsWord_of_takeWhile_eq_nil nonempty (Decidable.not_not.1 fun h => hcolon ⟨hc, h⟩)

theorem wellCut_pieces : ∀ path : List Char, WellCut (pieces path)
  | [] => .nil
  | c :: cs => wellCut_extend c (wellCut_pieces cs)

/-! ## No other pieces decompose a path -/

/-- A character in front of pieces, as part of their first literal. -/
def pushChar (c : Char) : List Piece → List Piece
  | .literal cs :: ps => .literal (c :: cs) :: ps
  | ps => .literal [c] :: ps

theorem pushChar_eq {ps : List Piece} (apart : ∀ p ∈ ps.head?, ∀ ds, p ≠ .literal ds) (c : Char) :
    pushChar c ps = .literal [c] :: ps := by
  rcases ps with _ | ⟨ds | name, ps⟩
  · rfl
  · exact absurd rfl (apart (.literal ds) rfl ds)
  · rfl

theorem takeWhile_eq_nil_of_stopsWord : ∀ {cs after : List Char}, StopsWord (cs ++ after) →
    cs.takeWhile Text.isWord = []
  | [], _, _ => rfl
  | c :: cs, _, h => by
    have hc : ¬ Text.isWord c = true := Bool.eq_false_iff.1 (h c rfl)
    rw [List.takeWhile_cons_of_neg hc]

theorem dropWhile_eq_self_of_stopsWord : ∀ {cs after : List Char}, StopsWord (cs ++ after) →
    cs.dropWhile Text.isWord = cs
  | [], _, _ => rfl
  | c :: cs, _, h => by
    have hc : ¬ Text.isWord c = true := Bool.eq_false_iff.1 (h c rfl)
    rw [List.dropWhile_cons_of_neg hc]

/-- A character that starts no placeholder joins the literal in front. -/
theorem extend_eq_pushChar {c : Char} : ∀ {ps : List Piece},
    (c = ':' → StopsWord (ps.flatMap Piece.source)) → extend c ps = pushChar c ps
  | [], _ | .slot _ :: _, _ => rfl
  | .literal cs :: ps, h => by
    have hnot : ¬ (c = ':' ∧ cs.takeWhile Text.isWord ≠ []) :=
      fun ⟨hc, hword⟩ => hword (takeWhile_eq_nil_of_stopsWord (h hc))
    rw [extend, if_neg hnot]
    rfl

/-- The characters of a literal make that literal again. -/
theorem pieces_literal {ps : List Piece} (hps : pieces (ps.flatMap Piece.source) = ps)
    (apart : ∀ p ∈ ps.head?, ∀ ds, p ≠ .literal ds) : ∀ {cs : List Char}, cs ≠ [] →
      NoSlotIn cs (ps.flatMap Piece.source) →
        pieces (cs ++ ps.flatMap Piece.source) = .literal cs :: ps
  | [c], _, h => by
    have hpieces : pieces ([c] ++ ps.flatMap Piece.source) = extend c ps := congrArg (extend c) hps
    rw [hpieces, extend_eq_pushChar h.1, pushChar_eq apart]
  | c :: d :: cs, _, h => by
    have ih : pieces (d :: cs ++ ps.flatMap Piece.source) = .literal (d :: cs) :: ps :=
      pieces_literal hps apart (List.cons_ne_nil d cs) h.2
    have hpieces : pieces (c :: d :: cs ++ ps.flatMap Piece.source)
        = extend c (.literal (d :: cs) :: ps) := congrArg (extend c) ih
    rw [hpieces, extend_eq_pushChar h.1]
    rfl

/-- The characters of a word join the literal in front. -/
theorem pieces_word_append {cs : List Char} : ∀ {name : List Char},
    (∀ c ∈ name, Text.isWord c = true) → pieces (name ++ cs) = name.foldr pushChar (pieces cs)
  | [], _ => rfl
  | c :: name, h => by
    have ih : pieces (name ++ cs) = name.foldr pushChar (pieces cs) :=
      pieces_word_append fun d hd => h d (List.mem_cons_of_mem c hd)
    have hc : c ≠ ':' := by
      rintro rfl
      exact absurd (h ':' List.mem_cons_self) (by decide)
    have hpieces : pieces (c :: name ++ cs) = extend c (name.foldr pushChar (pieces cs)) :=
      congrArg (extend c) ih
    rw [hpieces, extend_eq_pushChar fun e => absurd e hc]
    rfl

theorem foldr_pushChar_literal (cs : List Char) (ps : List Piece) : ∀ name : List Char,
    name.foldr pushChar (.literal cs :: ps) = .literal (name ++ cs) :: ps
  | [] => rfl
  | c :: name => congrArg (pushChar c) (foldr_pushChar_literal cs ps name)

theorem foldr_pushChar {ps : List Piece} (apart : ∀ p ∈ ps.head?, ∀ ds, p ≠ .literal ds) :
    ∀ {name : List Char}, name ≠ [] → name.foldr pushChar ps = .literal name :: ps
  | [c], _ => pushChar_eq apart c
  | c :: d :: name, _ =>
    congrArg (pushChar c) (foldr_pushChar apart (List.cons_ne_nil d name))

/-- A word behind a colon is a placeholder, if what is behind it does not go on with it. -/
theorem extend_colon {name cs after : List Char} (nonempty : name ≠ [])
    (word : ∀ c ∈ name, Text.isWord c = true) (maximal : StopsWord (cs ++ after))
    (ps : List Piece) :
    extend ':' (.literal (name ++ cs) :: ps) = .slot name :: literalThen cs ps := by
  have htake : (name ++ cs).takeWhile Text.isWord = name := by
    rw [List.takeWhile_append_of_pos word, takeWhile_eq_nil_of_stopsWord maximal, List.append_nil]
  have hdrop : (name ++ cs).dropWhile Text.isWord = cs := by
    rw [List.dropWhile_append_of_pos word, dropWhile_eq_self_of_stopsWord maximal]
  rw [extend, htake, hdrop, if_pos ⟨rfl, nonempty⟩]

/-- The characters of a placeholder make that placeholder again. -/
theorem pieces_slot {name : List Char} {ps : List Piece}
    (hps : pieces (ps.flatMap Piece.source) = ps) (nonempty : name ≠ [])
    (word : ∀ c ∈ name, Text.isWord c = true) (maximal : StopsWord (ps.flatMap Piece.source))
    (rest : WellCut ps) : pieces (':' :: (name ++ ps.flatMap Piece.source)) = .slot name :: ps := by
  have hpieces : pieces (':' :: (name ++ ps.flatMap Piece.source))
      = extend ':' (name.foldr pushChar ps) := by
    have hname := @pieces_word_append (ps.flatMap Piece.source) name word
    rw [hps] at hname
    exact congrArg (extend ':') hname
  have hother (apart : ∀ p ∈ ps.head?, ∀ ds, p ≠ .literal ds) :
      extend ':' (name.foldr pushChar ps) = .slot name :: ps := by
    have h := @extend_colon name [] _ nonempty word maximal ps
    rwa [List.append_nil, ← foldr_pushChar apart nonempty] at h
  rw [hpieces]
  rcases rest with _ | @⟨cs, ps, hcs, -, -, -⟩ | @⟨q, ps, -, -, -, -⟩
  · exact hother nofun
  · have hmaximal : StopsWord (cs ++ ps.flatMap Piece.source) := maximal
    rw [foldr_pushChar_literal, extend_colon nonempty word hmaximal]
    rcases cs with _ | ⟨c, cs⟩
    · exact absurd rfl hcs
    · rfl
  · exact hother (slot_apart q ps)

/-- Pieces that are well cut are taken apart again as they were. -/
theorem pieces_source : ∀ {ps : List Piece}, WellCut ps → pieces (ps.flatMap Piece.source) = ps
  | _, .nil => rfl
  | _, .literal nonempty apart noSlot rest =>
    pieces_literal (pieces_source rest) apart nonempty noSlot
  | _, .slot nonempty word maximal rest =>
    pieces_slot (pieces_source rest) nonempty word maximal rest

/-- **The pieces of a path are its one decomposition.** -/
theorem decomposes_iff {path : List Char} {ps : List Piece} :
    Decomposes path ps ↔ pieces path = ps := by
  constructor
  · rintro ⟨rfl, hps⟩
    exact pieces_source hps
  · rintro rfl
    exact ⟨flatMap_source_pieces path, wellCut_pieces path⟩

example : pieces "/::id-:".toList
    = [.literal ['/', ':'], .slot ['i', 'd'], .literal ['-', ':']] := by
  decide

end BrowserRemote.Route
