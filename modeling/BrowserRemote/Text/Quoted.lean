import BrowserRemote.Text.Hex
import BrowserRemote.Text.Printable

/-!
# Text/Quoted — how a text or a byte string is shown inside quotes

Single quotes, unless the text holds a single quote and no double one.  A backslash goes in front
of the quote in use and of a backslash; line feed, carriage return and tab have letters of their
own; any other character that does not print is shown by its code in two, four or eight
hexadecimal digits.  Bytes print when they are printable below U+0080.
-/

namespace BrowserRemote.Text

/-- The quote a text is shown in. -/
def quoteMark (cs : List Char) : Char :=
  if cs.contains '\'' && !cs.contains '"' then '"' else '\''

/-- The code of a character behind a backslash, in as few as fit of two, four or eight digits. -/
def hexEscape (n : Nat) : List Char :=
  if n < 0x100 then '\\' :: 'x' :: hexPadded 2 n
  else if n < 0x10000 then '\\' :: 'u' :: hexPadded 4 n
  else '\\' :: 'U' :: hexPadded 8 n

/-- One character inside quotes; `printable` says which characters stand as they are. -/
def quotedChar (printable : Char → Bool) (mark c : Char) : List Char :=
  if c = mark ∨ c = '\\' then ['\\', c]
  else if c = '\n' then ['\\', 'n']
  else if c = '\r' then ['\\', 'r']
  else if c = '\t' then ['\\', 't']
  else if printable c then [c]
  else hexEscape c.toNat

/-- The characters between two quotes, the quotes included. -/
def quotedWith (printable : Char → Bool) (cs : List Char) : List Char :=
  let mark := quoteMark cs
  mark :: cs.flatMap (quotedChar printable mark) ++ [mark]

/-- **A text shown inside quotes.** -/
def quoted (s : String) : String := String.ofList (quotedWith isPrintable s.toList)

/-- **A byte string shown inside quotes**, with the letter that marks it. -/
def quotedBytes (bs : List UInt8) : String :=
  String.ofList ('b' :: quotedWith (fun c => ' ' ≤ c && c ≤ '~')
    (bs.map fun b => Char.ofNat b.toNat))

end BrowserRemote.Text
