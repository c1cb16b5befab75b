import BrowserRemote.Css.Identifier

/-!
# Css/Selector — searches by class, identifier, name and tag as selectors

The W3C dialect searches by selector.  Four older ways of searching are written as selectors; every
other strategy, a link's text or a path among them, stays as it is.
-/

namespace BrowserRemote.Css

/-- The ways of searching that are written as selectors. -/
inductive Legacy where
  | className
  | id
  | name
  | tagName
deriving DecidableEq, Repr

namespace Legacy

/-- The word a strategy is given by. -/
def word : Legacy → String
  | .className => "class name"
  | .id => "id"
  | .name => "name"
  | .tagName => "tag name"

/-- The strategy a word gives. -/
def ofWord? : String → Option Legacy
  | "class name" => some .className
  | "id" => some .id
  | "name" => some .name
  | "tag name" => some .tagName
  | _ => none

/-- The strategy a value gives. -/
def ofValue? : Value → Option Legacy
  | .str s => ofWord? s
  | _ => none

theorem ofWord?_word (l : Legacy) : ofWord? l.word = some l := by cases l <;> rfl

theorem word_of_ofWord? {s : String} {l : Legacy} (h : ofWord? s = some l) : l.word = s := by
  unfold ofWord? at h
  split at h <;> simp_all <;> subst h <;> rfl

/-- A value gives a strategy when it is the strategy's word. -/
theorem ofValue?_eq_some_iff {v : Value} {l : Legacy} : ofValue? v = some l ↔ v = .str l.word := by
  constructor
  · intro h
    cases v with
    | str s => rw [word_of_ofWord? h]
    | _ => cases h
  · rintro rfl
    exact ofWord?_word l

/-- What stands before a name in its selector. -/
def nameOpening : List Char := "*[name='".toList

/-- What stands behind a name in its selector. -/
def nameClosing : List Char := "']".toList

/-- **The selector of a text.**  A name is quoted as it is, the others are identifiers. -/
def selector (l : Legacy) (cs : List Char) : List Char :=
  match l with
  | .className => '.' :: escape cs
  | .id => '#' :: escape cs
  | .name => nameOpening ++ cs ++ nameClosing
  | .tagName => escape cs

/-- The selector of a value. -/
def selectorOf (l : Legacy) (v : Value) : Except Fault String :=
  match l, v with
  | .name, .str s => .ok (String.ofList (selector .name s.toList))
  | .name, _ => .error .wrongType
  | .className, v => do return String.ofList ('.' :: (← escapeOf v).toList)
  | .id, v => do return String.ofList ('#' :: (← escapeOf v).toList)
  | .tagName, v => escapeOf v

/-- On a text, the selector is that of its characters. -/
theorem selectorOf_str (l : Legacy) (s : String) :
    selectorOf l (.str s) = .ok (String.ofList (selector l s.toList)) := by
  cases l with
  | name => rfl
  | className | id =>
    simp only [selectorOf, escapeOf_str, bind, Except.bind, pure, Except.pure,
      String.toList_ofList, selector]
  | tagName => simp only [selectorOf, escapeOf_str, selector]

end Legacy

/-- The strategy of a search by selector. -/
def selectorStrategy : String := "css selector"

/-- **A search as the W3C dialect takes it**: by selector, if its strategy is one of the older
ones. -/
def bySelector (strategy value : Value) : Except Fault (Value × Value) :=
  match Legacy.ofValue? strategy with
  | some l => do return (.str selectorStrategy, .str (← l.selectorOf value))
  | none => .ok (strategy, value)

end BrowserRemote.Css
