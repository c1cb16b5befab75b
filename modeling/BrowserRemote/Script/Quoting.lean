import BrowserRemote.Script.Call

/-!
# Script/Quoting — reading an escaped script back

Escaping the double quotes of a script can be undone: a backslash before a double quote goes.  It
protects the quotes only of scripts without a quote behind an odd run of backslashes, since
backslashes themselves are not escaped.
-/

namespace BrowserRemote.Script

/-- Every backslash before a double quote goes, from the left, none looked at twice. -/
def unescapeQuotes : List Char → List Char
  | [] => []
  | '\\' :: '"' :: cs => '"' :: unescapeQuotes cs
  | c :: cs => c :: unescapeQuotes cs

/-- Inside a literal in double quotes a backslash takes the next character with it.  `true` says
that a double quote is met that no backslash has taken; `escaped` that one is at work. -/
def endsEarly : (escaped : Bool) → List Char → Bool
  | _, [] => false
  | true, _ :: cs => endsEarly false cs
  | false, c :: cs => c == '"' || endsEarly (c == '\\') cs

/-- A double quote has an odd run of backslashes right before it; `odd` is the parity of the run
that has just been read. -/
def hasOddQuote : (odd : Bool) → List Char → Bool
  | _, [] => false
  | odd, c :: cs => (odd && c == '"') || hasOddQuote (c == '\\' && !odd) cs

/-- What is escaped does not start with a double quote. -/
theorem escapeQuotes_ne_quote_cons (cs ds : List Char) : escapeQuotes cs ≠ '"' :: ds := by
  cases cs with
  | nil => simp [escapeQuotes]
  | cons c cs => by_cases h : c = '"' <;> simp [escapeQuotes, h]

/-- **Escaping can be undone.** -/
theorem unescapeQuotes_escapeQuotes : ∀ cs : List Char, unescapeQuotes (escapeQuotes cs) = cs
  | [] => rfl
  | c :: cs => by
    by_cases h : c = '"'
    · simp [h, escapeQuotes, unescapeQuotes, unescapeQuotes_escapeQuotes cs]
    · rw [escapeQuotes, if_neg h, unescapeQuotes, unescapeQuotes_escapeQuotes cs]
      exact fun ds _ hds => escapeQuotes_ne_quote_cons cs ds hds

end BrowserRemote.Script
