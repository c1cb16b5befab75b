import BrowserRemote.Fault
import BrowserRemote.Text.Word

/-!
# Route/Pattern — the pieces of a path with placeholders

A placeholder is a colon and the word characters behind it, as many as there are and at least one;
all else is literal.  A path is taken apart from its end: a new character joins the literal in
front, and a colon turns the word that this literal starts with into a placeholder.
-/

namespace BrowserRemote.Route

/-- A stretch of a path: literal, or a placeholder by its name. -/
inductive Piece where
  | literal (cs : List Char)
  | slot (name : List Char)
deriving DecidableEq, Repr

/-- A literal in front of other pieces; an empty one is no piece. -/
def literalThen : List Char → List Piece → List Piece
  | [], ps => ps
  | cs, ps => .literal cs :: ps

/-- One more character in front. -/
def extend (c : Char) : List Piece → List Piece
  | .literal cs :: ps =>
    if c = ':' ∧ cs.takeWhile Text.isWord ≠ [] then
      .slot (cs.takeWhile Text.isWord) :: literalThen (cs.dropWhile Text.isWord) ps
    else .literal (c :: cs) :: ps
  | ps => .literal [c] :: ps

/-- **The pieces of a path.** -/
def pieces (path : List Char) : List Piece := path.foldr extend []

/-- The names of the placeholders, repetitions kept. -/
def slots : List Piece → List (List Char)
  | [] => []
  | .literal _ :: ps => slots ps
  | .slot name :: ps => name :: slots ps

/-- **The path with its placeholders filled**, or the fault of the first one that cannot be. -/
def fill (value : List Char → Except Fault String) : List Piece → Except Fault (List Char)
  | [] => .ok []
  | .literal cs :: ps => do return cs ++ (← fill value ps)
  | .slot name :: ps => do
    let v ← value name
    return v.toList ++ (← fill value ps)

/-- The characters a piece was made from. -/
def Piece.source : Piece → List Char
  | .literal cs => cs
  | .slot name => ':' :: name

theorem flatMap_source_literalThen (cs : List Char) (ps : List Piece) :
    (literalThen cs ps).flatMap Piece.source = cs ++ ps.flatMap Piece.source := by
  cases cs <;> rfl

theorem flatMap_source_extend (c : Char) (ps : List Piece) :
    (extend c ps).flatMap Piece.source = c :: ps.flatMap Piece.source := by
  match ps with
  | .literal cs :: ps =>
    rw [extend]
    split
    · next h =>
      simp only [List.flatMap_cons, Piece.source, flatMap_source_literalThen, h.1]
      rw [List.cons_append, ← List.append_assoc, List.takeWhile_append_dropWhile]
    · rfl
  | .slot name :: ps => rfl
  | [] => rfl

/-- **The pieces put together are the path.** -/
theorem flatMap_source_pieces (path : List Char) :
    (pieces path).flatMap Piece.source = path := by
  induction path with
  | nil => rfl
  | cons c cs ih => exact (flatMap_source_extend c (pieces cs)).trans (by rw [ih])

end BrowserRemote.Route
