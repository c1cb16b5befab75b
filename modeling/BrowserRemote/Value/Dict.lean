import BrowserRemote.Fault

/-!
# Value/Dict — keys, look-up and the making of dictionaries

A key is found by equality of values: numbers are equal across their types, texts letter by
letter, settings by their making.  Lists and dictionaries cannot be keys.  Most look-ups are by a
text: `get?_str` says that such a look-up meets text keys only.
-/

namespace BrowserRemote

namespace Value

/-! ## Keys -/

mutual

/-- Equality of keys. -/
def sameKey : Value → Value → Bool
  | .null, .null => true
  | .str s, .str t => s == t
  | .bytes s, .bytes t => s == t
  | .tuple s, .tuple t => sameKeys s t
  | .element s, .element t => sameKey s t
  | .command c, .command d => c == d
  | .settings s, .settings t => s.serial == t.serial
  | v, w => match v.number?, w.number? with
    | some x, some y => x.same y
    | _, _ => false

/-- Equality of the items of two keys. -/
def sameKeys : List Value → List Value → Bool
  | [], [] => true
  | v :: vs, w :: ws => sameKey v w && sameKeys vs ws
  | _, _ => false

end

mutual

/-- What keeps a value from being a key: it is a list or a dictionary or holds one, or it is a
handle whose identifier is no text. -/
def keyFault? : Value → Option Fault
  | .list _ | .dict _ => some .wrongType
  | .tuple items => keysFault? items
  | .element (.str _) => none
  | .element _ => some .noOperation
  | _ => none

/-- The first obstacle among the items of a key. -/
def keysFault? : List Value → Option Fault
  | [] => none
  | item :: items => keyFault? item <|> keysFault? items

end

/-- The value, if it can be a key. -/
def asKey (v : Value) : Except Fault Value :=
  match v.keyFault? with
  | some fault => .error fault
  | none => .ok v

/-- A text is the same key as itself only. -/
theorem sameKey_str {s : String} {v : Value} : sameKey (.str s) v = true ↔ v = .str s := by
  cases v with
  | str t => exact beq_iff_eq.trans ⟨fun h => by rw [h], fun h => (Value.str.inj h).symm⟩
  | _ => exact ⟨fun h => (nomatch (h : false = true)), fun h => (nomatch h)⟩

end Value

/-! ## Look-up and change -/

namespace Dict

/-- The value of a key. -/
def get? : Dict → Value → Option Value
  | [], _ => none
  | (k, v) :: entries, key => if key.sameKey k then some v else get? entries key

/-- The value of a text key. -/
def field? : Dict → String → Option Value
  | [], _ => none
  | (.str k, v) :: entries, name => if k = name then some v else field? entries name
  | _ :: entries, name => field? entries name

/-- A key's value is replaced where it stands, or added at the end. -/
def insert : Dict → Value → Value → Dict
  | [], key, value => [(key, value)]
  | (k, v) :: entries, key, value =>
    if key.sameKey k then (k, value) :: entries else (k, v) :: insert entries key value

/-- The entries with a text key set. -/
def setField (entries : Dict) (name : String) (value : Value) : Dict :=
  insert entries (.str name) value

/-- The entries with a text key set, if they lack it. -/
def setFieldIfAbsent (entries : Dict) (name : String) (value : Value) : Dict :=
  match field? entries name with
  | some _ => entries
  | none => setField entries name value

/-- **A look-up by a text** meets text keys only. -/
theorem get?_str (name : String) : ∀ entries : Dict, get? entries (.str name) = field? entries name
  | [] => rfl
  | (k, v) :: entries => by
    rw [get?]
    split
    · next h => simp [Value.sameKey_str.1 h, field?]
    · next h =>
      cases k with
      | str t =>
        have ht : t ≠ name := fun e => h (Value.sameKey_str.2 (by rw [e]))
        simp [field?, ht, get?_str name entries]
      | _ => exact get?_str name entries

theorem field?_cons (k v : Value) (entries : Dict) (name : String) :
    field? ((k, v) :: entries) name =
      if (Value.str name).sameKey k then some v else field? entries name := by
  rw [← get?_str, get?, get?_str]

/-- **A text key that was set has the value it was set to, and no other one changes.** -/
theorem field?_setField (key name : String) (value : Value) : ∀ entries : Dict,
    field? (setField entries name value) key = if key = name then some value else field? entries key
  | [] => by
    by_cases hkey : key = name
    · rw [hkey, if_pos rfl, setField, insert, field?, if_pos rfl]
    · have hne : ¬ (Value.str key).sameKey (.str name) = true := mt beq_iff_eq.1 hkey
      rw [if_neg hkey, setField, insert, field?_cons, if_neg hne]
  | (k, v) :: entries => by
    rw [setField, insert]
    split
    · next h =>
      obtain rfl := Value.sameKey_str.1 h
      by_cases hkey : key = name
      · rw [hkey, if_pos rfl, field?_cons, if_pos h]
      · have hne : ¬ (Value.str key).sameKey (.str name) = true := mt beq_iff_eq.1 hkey
        rw [if_neg hkey, field?_cons, if_neg hne, field?_cons, if_neg hne]
    · next h =>
      have ih : field? (insert entries (.str name) value) key =
          if key = name then some value else field? entries key :=
        field?_setField key name value entries
      rw [field?_cons, field?_cons, ih]
      by_cases hkey : key = name
      · rw [hkey, if_pos rfl, if_neg h, if_pos rfl]
      · rw [if_neg hkey, if_neg hkey]

/-- A text key that is set if it is absent keeps the value it had, and no other one changes. -/
theorem field?_setFieldIfAbsent (entries : Dict) (key name : String) (value : Value) :
    field? (setFieldIfAbsent entries name value) key =
      if key = name then some ((field? entries name).getD value) else field? entries key := by
  unfold setFieldIfAbsent
  split
  · next found hfound =>
    by_cases hkey : key = name
    · rw [if_pos hkey, hkey, hfound]
      rfl
    · rw [if_neg hkey]
  · next habsent =>
    rw [field?_setField, habsent]
    rfl

end Dict

/-! ## Making dictionaries and running through values -/

namespace Value

/-- The two values of a pair: a container, a text or a byte string of two. -/
def pair? : Value → Except Fault (Value × Value)
  | .list [a, b] | .tuple [a, b] | .dict [(a, _), (b, _)] => .ok (a, b)
  | .str s => match s.toList with
    | [a, b] => .ok (.str (.ofList [a]), .str (.ofList [b]))
    | _ => .error .notAPair
  | .bytes [a, b] => .ok (.int a.toNat, .int b.toNat)
  | .list _ | .tuple _ | .dict _ | .bytes _ => .error .notAPair
  | _ => .error .wrongType

/-- The entries with pairs put in, one after the other. -/
def insertPairs : Dict → List Value → Except Fault Dict
  | entries, [] => .ok entries
  | entries, p :: pairs => do
    let (key, value) ← p.pair?
    let key ← key.asKey
    insertPairs (entries.insert key value) pairs

/-- **The values met in running through a value**: items, the keys of a dictionary, the letters
of a text, the numbers of a byte string. -/
def items : Value → Except Fault (List Value)
  | .list items | .tuple items => .ok items
  | .dict entries => .ok (entries.map (·.1))
  | .str s => .ok (s.toList.map fun c => .str (.ofList [c]))
  | .bytes bs => .ok (bs.map fun b => .int b.toNat)
  | _ => .error .wrongType

/-- **The dictionary a value makes**: its own entries, or the pairs met in running through it. -/
def toDict : Value → Except Fault Dict
  | .dict entries => .ok entries
  | v => do insertPairs [] (← v.items)

@[simp] theorem toDict_dict (entries : Dict) : toDict (.dict entries) = .ok entries := rfl

/-- The value of a text key; only dictionaries have any. -/
def field? (v : Value) (name : String) : Except Fault (Option Value) :=
  match v with
  | .dict entries => .ok (Dict.field? entries name)
  | _ => .error .noOperation

end Value

end BrowserRemote
