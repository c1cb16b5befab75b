/-!
# Text/Newline — one spelling for the end of a line
-/

namespace BrowserRemote.Text

/-- **Every line ends in a line feed**: a carriage return, and the line feed after it if there is
one, become one line feed. -/
def unifyNewlines : List Char → List Char
  | [] => []
  | '\r' :: '\n' :: cs => '\n' :: unifyNewlines cs
  | c :: cs => (if c = '\r' then '\n' else c) :: unifyNewlines cs

end BrowserRemote.Text
