import BrowserRemote.Css.Selector
import BrowserRemote.Text.Hex

/-!
# Css/Reader — what an identifier and a quoted name say

The readers stand beside the writers of `Css/Identifier` and `Css/Selector` and know nothing of
them: they read a backslash the way selectors do.  Before a hexadecimal digit it starts a code of up
to six digits, which one blank may end; before any other character it yields that character.
-/

namespace BrowserRemote.Css

/-! ## Characters -/

/-- A character that ends a line. -/
def isNewline (c : Char) : Bool := c == '\n' || c == '\r' || c == '\x0c'

/-- A character that may end a code. -/
def isBlank (c : Char) : Bool := c == ' ' || c == '\t' || isNewline c

/-- An ASCII letter. -/
def isAsciiLetter (c : Char) : Bool := ('a' ≤ c && c ≤ 'z') || ('A' ≤ c && c ≤ 'Z')

/-- An ASCII digit. -/
def isAsciiDigit (c : Char) : Bool := '0' ≤ c && c ≤ '9'

/-- A character that stands for itself in an identifier. -/
def isIdentifierChar (c : Char) : Bool :=
  isAsciiLetter c || isAsciiDigit c || c == '_' || c == '-' || 0x80 ≤ c.toNat

/-- The character of a code: the replacement character for zero and for what is no character. -/
def charOfCode (n : Nat) : Char := if n ≠ 0 ∧ n.isValidChar then Char.ofNat n else '\ufffd'

/-- Where a reader is: between characters, behind a backslash, or inside a code of which a value
has been read and some digits may follow. -/
inductive Reading where
  | between
  | escaped
  | code (value room : Nat)
deriving DecidableEq, Repr

/-! ## Identifiers -/

/-- Reads the rest of an identifier. -/
def readIdentifierFrom : Reading → List Char → Option (List Char)
  | .between, [] => some []
  | .between, c :: cs =>
    if c = '\\' then readIdentifierFrom .escaped cs
    else if isIdentifierChar c then (c :: ·) <$> readIdentifierFrom .between cs
    else none
  | .escaped, [] => none
  | .escaped, c :: cs => match Text.hexValue? c with
    | some v => readIdentifierFrom (.code v 5) cs
    | none => if isNewline c then none else (c :: ·) <$> readIdentifierFrom .between cs
  | .code value _, [] => some [charOfCode value]
  | .code value room, c :: cs => match room, Text.hexValue? c with
    | room + 1, some v => readIdentifierFrom (.code (value * 16 + v) room) cs
    | _, _ => (charOfCode value :: ·) <$>
      if isBlank c then readIdentifierFrom .between cs
      else if c = '\\' then readIdentifierFrom .escaped cs
      else if isIdentifierChar c then (c :: ·) <$> readIdentifierFrom .between cs
      else none

/-- **What an identifier says**: nothing if it is empty or starts with an ASCII digit. -/
def readIdentifier : List Char → Option (List Char)
  | [] => none
  | c :: cs => if isAsciiDigit c then none else readIdentifierFrom .between (c :: cs)

/-! ## Quoted names -/

/-- Reads the rest of a quoted name and the end of its selector. -/
def readNameFrom : Reading → List Char → Option (List Char)
  | _, [] => none
  | .between, c :: cs =>
    if c = '\'' then (if cs = [']'] then some [] else none)
    else if c = '\\' then readNameFrom .escaped cs
    else if isNewline c then none
    else (c :: ·) <$> readNameFrom .between cs
  | .escaped, c :: cs => match Text.hexValue? c with
    | some v => readNameFrom (.code v 5) cs
    | none =>
      if isNewline c then readNameFrom .between cs else (c :: ·) <$> readNameFrom .between cs
  | .code value room, c :: cs => match room, Text.hexValue? c with
    | room + 1, some v => readNameFrom (.code (value * 16 + v) room) cs
    | _, _ => (charOfCode value :: ·) <$>
      if isBlank c then readNameFrom .between cs
      else if c = '\'' then (if cs = [']'] then some [] else none)
      else if c = '\\' then readNameFrom .escaped cs
      else (c :: ·) <$> readNameFrom .between cs

/-- **What a selector by name looks for.** -/
def readName (cs : List Char) : Option (List Char) :=
  if Legacy.nameOpening.isPrefixOf cs then
    readNameFrom .between (cs.drop Legacy.nameOpening.length)
  else none

end BrowserRemote.Css
