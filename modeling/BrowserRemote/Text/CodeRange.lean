/-!
# Text/CodeRange — sets of characters as closed ranges of code points
-/

namespace BrowserRemote.Text

/-- The first and the last code point of a range. -/
abbrev CodeRange := Nat × Nat

/-- Some range holds the code point. -/
def inRanges (n : Nat) : List CodeRange → Bool
  | [] => false
  | (first, last) :: ranges => (first ≤ n && n ≤ last) || inRanges n ranges

end BrowserRemote.Text
