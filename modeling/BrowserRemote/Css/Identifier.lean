import BrowserRemote.Text.Digit
import BrowserRemote.Value.Dict

/-!
# Css/Identifier — texts written as CSS identifiers

A backslash goes in front of every character that means something in a selector.  A digit cannot
start an identifier: a leading one is written by its value, as the code point of the ASCII digit
of that value, with the space that ends such a code.
-/

namespace BrowserRemote.Css

/-- The characters that mean something in a selector. -/
def specialCharacters : List Char := "'\"\\#.:;,!?+<>=~*^$|%&@`\x7b\x7d-/[]()".toList

/-- A character that means something in a selector. -/
def isSpecial (c : Char) : Bool := specialCharacters.contains c

/-! ## Escaping a text -/

/-- A backslash in front of every special character. -/
def escapeSpecial : List Char → List Char
  | [] => []
  | c :: cs => if isSpecial c then '\\' :: c :: escapeSpecial cs else c :: escapeSpecial cs

/-- A leading digit of any script by the code of its value. -/
def escapeLeadingDigit : List Char → List Char
  | [] => []
  | c :: cs => match Text.digitValue? c with
    | some v => '\\' :: '3' :: Char.ofNat (0x30 + v) :: ' ' :: cs
    | none => c :: cs

/-- **A text as an identifier.** -/
def escape (cs : List Char) : List Char := escapeLeadingDigit (escapeSpecial cs)

@[simp] theorem escapeSpecial_nil : escapeSpecial [] = [] := rfl

theorem escapeSpecial_cons (c : Char) (cs : List Char) :
    escapeSpecial (c :: cs) = (if isSpecial c then ['\\', c] else [c]) ++ escapeSpecial cs := by
  rw [escapeSpecial]; split <;> rfl

@[simp] theorem escapeLeadingDigit_nil : escapeLeadingDigit [] = [] := rfl

/-! ## Escaping a value

A text is a run of characters, and so is a list of texts: there an item is escaped when the whole
of it is one special character. -/

/-- One item of a run: escaped if it is a single special character. -/
def escapeItem (s : String) : String :=
  match s.toList with
  | [c] => if isSpecial c then String.ofList ['\\', c] else s
  | _ => s

/-- The items, each of them a possible key. -/
def keyItems : List Value → Except Fault Unit
  | [] => .ok ()
  | item :: items => do
    let _ ← item.asKey
    keyItems items

/-- The items escaped and put together, each of them a text. -/
def joinEscaped : List Value → Except Fault String
  | [] => .ok ""
  | .str s :: items => do return escapeItem s ++ (← joinEscaped items)
  | _ => .error .wrongType

/-- **The special characters of a value escaped.** -/
def escapeSpecialOf : Value → Except Fault String
  | .str s => .ok (String.ofList (escapeSpecial s.toList))
  | v => do
    let items ← v.items
    keyItems items
    joinEscaped items

/-- **The leading digit of a value escaped**; a value must be a text to have one. -/
def escapeLeadingDigitOf : Value → Except Fault String
  | .str s => .ok (String.ofList (escapeLeadingDigit s.toList))
  | .list _ | .tuple _ | .bytes _ => .error .noOperation
  | _ => .error .wrongType

/-- **A value as an identifier.** -/
def escapeOf (v : Value) : Except Fault String := do
  let s ← escapeSpecialOf v
  return String.ofList (escapeLeadingDigit s.toList)

/-- On a text, the identifier is that of its characters. -/
theorem escapeOf_str (s : String) : escapeOf (.str s) = .ok (String.ofList (escape s.toList)) := by
  simp [escapeOf, escapeSpecialOf, escape, bind, Except.bind, pure, Except.pure]

end BrowserRemote.Css
