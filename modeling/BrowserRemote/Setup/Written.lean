import BrowserRemote.Setup.Program
import BrowserRemote.Text.Newline
import BrowserRemote.Text.Word

/-!
# Setup/Written — the statements written in a setup file

A setup file is read line by line, and as a whole before its first statement runs.  A line is
blank, or it sets a name to a term, or a term stands alone on it; a remark may follow.  Terms are
names, whole numbers, texts between quotes, and the words of constants.  Every other line is
unreadable, and so is one that does not start at its left edge.
-/

namespace BrowserRemote.Setup

/-! ## Terms -/

/-- Words that are no names. -/
def reservedWords : List String := [
  "and", "as", "assert", "async", "await", "break", "class", "continue", "def", "del", "elif",
  "else", "except", "finally", "for", "from", "global", "if", "import", "in", "is", "lambda",
  "nonlocal", "not", "or", "pass", "raise", "return", "try", "while", "with", "yield"]

/-- The word of a line that does nothing. -/
def idleWord : String := "pass"

/-- The constants that have a word of their own. -/
def constant? : String → Option Value
  | "None" => some .null
  | "True" | "__debug__" => some (.bool true)
  | "False" => some (.bool false)
  | _ => none

/-- The whole number that digits write; only zero starts with a zero. -/
def number? (cs : List Char) : Option Nat :=
  if cs ≠ [] ∧ cs.all Char.isDigit ∧ (cs.head? ≠ some '0' ∨ cs.all (· == '0')) then
    some (cs.foldl (fun n c => 10 * n + (c.toNat - '0'.toNat)) 0)
  else none

/-- What a word stands for; a name starts with no digit. -/
def word? (cs : List Char) : Option Expr :=
  let s := String.ofList cs
  match constant? s, number? cs, cs with
  | some v, _, _ => some (.value v)
  | none, some n, _ => some (.value (.int n))
  | none, none, c :: _ =>
    if Text.isDigit c ∨ s ∈ reservedWords then none else some (.fromVariable s)
  | none, none, [] => none

/-- The text up to a closing quote, and what follows it. -/
def quoted? (quote : Char) (cs : List Char) : Option (Expr × List Char) :=
  let isInner (c : Char) : Bool := c != quote && c != '\\'
  match cs.dropWhile isInner with
  | c :: rest =>
    if c = quote then some (.value (.str (String.ofList (cs.takeWhile isInner))), rest) else none
  | [] => none

/-- The term a line starts with, and what follows it. -/
def term? : List Char → Option (Expr × List Char)
  | '\'' :: cs => quoted? '\'' cs
  | '"' :: cs => quoted? '"' cs
  | cs => (word? (cs.takeWhile Text.isWord)).map fun e => (e, cs.dropWhile Text.isWord)

/-! ## Lines -/

/-- A blank inside a line. -/
def isLineBlank (c : Char) : Bool := c == ' ' || c == '\t' || c == '\x0c'

/-- Blanks, and perhaps a remark, up to the end of a line. -/
def isIdle (cs : List Char) : Bool :=
  match cs.dropWhile isLineBlank with
  | [] | '#' :: _ => true
  | _ => false

/-- The line does not start at its left edge, to which a form feed goes back. -/
def isIndented (line : List Char) : Bool :=
  match (line.takeWhile isLineBlank).getLast? with
  | none | some '\x0c' => false
  | some _ => true

/-- A term that fills the rest of a line. -/
def wholeTerm? (cs : List Char) : Option Expr :=
  match term? (cs.dropWhile isLineBlank) with
  | some (e, rest) => if isIdle rest then some e else none
  | none => none

/-- The statements of a line from its left edge on. -/
def lineStatements? (cs : List Char) : Option (List Statement) :=
  match term? cs with
  | some (.fromVariable name, rest) =>
    if isIdle rest then some [.mention name]
    else match rest.dropWhile isLineBlank with
      | '=' :: rest => (wholeTerm? rest).map fun e => [.assign name e]
      | _ => none
  | some (_, rest) => if isIdle rest then some [] else none
  | none =>
    if String.ofList (cs.takeWhile Text.isWord) = idleWord ∧ isIdle (cs.dropWhile Text.isWord) then
      some []
    else none

/-- The statements of a line. -/
def statementsOfLine (line : List Char) : Except Fault (List Statement) :=
  if isIdle line then .ok []
  else if isIndented line then .error .indentedSetup
  else match lineStatements? (line.dropWhile isLineBlank) with
    | some statements => .ok statements
    | none => .error .unreadableSetup

/-- The statements of lines. -/
def statementsOfLines : List (List Char) → Except Fault (List Statement)
  | [] => .ok []
  | line :: lines => do return (← statementsOfLine line) ++ (← statementsOfLines lines)

/-- **The statements of a text**, which has no NUL. -/
def statementsOfText (cs : List Char) : Except Fault (List Statement) :=
  if cs.contains '\x00' then .error .unreadableSetup
  else statementsOfLines ((Text.unifyNewlines cs).splitOn '\n')

end BrowserRemote.Setup
