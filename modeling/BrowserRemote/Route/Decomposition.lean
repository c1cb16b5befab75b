import BrowserRemote.Route.Pattern

/-!
# Route/Decomposition — which pieces a path falls into

A list of pieces is a **decomposition** of a path when it puts the path together, no literal is
empty or stands next to another one, every placeholder's name is a run of word characters that
cannot be longer, and no colon of a literal has a word character behind it.
-/

namespace BrowserRemote.Route

/-- The characters behind a colon or a name do not start with a word character. -/
def StopsWord (cs : List Char) : Prop := ∀ c ∈ cs.head?, Text.isWord c = false

/-- No colon has a word character behind it, in characters that others follow. -/
def NoSlotIn : List Char → List Char → Prop
  | [], _ => True
  | c :: cs, after => (c = ':' → StopsWord (cs ++ after)) ∧ NoSlotIn cs after

/-- Pieces that a path can fall into. -/
inductive WellCut : List Piece → Prop where
  | nil : WellCut []
  | literal {cs : List Char} {ps : List Piece} (nonempty : cs ≠ [])
      (apart : ∀ p ∈ ps.head?, ∀ ds, p ≠ .literal ds)
      (noSlot : NoSlotIn cs (ps.flatMap Piece.source)) (rest : WellCut ps) :
      WellCut (.literal cs :: ps)
  | slot {name : List Char} {ps : List Piece} (nonempty : name ≠ [])
      (word : ∀ c ∈ name, Text.isWord c = true) (maximal : StopsWord (ps.flatMap Piece.source))
      (rest : WellCut ps) : WellCut (.slot name :: ps)

/-- **A decomposition of a path.** -/
def Decomposes (path : List Char) (ps : List Piece) : Prop :=
  ps.flatMap Piece.source = path ∧ WellCut ps

end BrowserRemote.Route
