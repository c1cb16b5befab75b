import BrowserRemote.Css.Selector
import BrowserRemote.Proofs.Log.Outcomes
import BrowserRemote.Value.Designation

/-!
# Proofs/Value/Faults — what can be wrong with a value

    text, label, look-up, entries, selector ──✗──▸ wrong type │ no operation │ no pair

Whatever is asked of a value, only the value is to blame when it fails: it is of the wrong type,
lacks the operation, or is no pair (`Fault.BlamesValue`).  No such failure speaks of commands, of
paths or of atoms.
-/

namespace BrowserRemote

/-- **The fault lies with a value.** -/
def Fault.BlamesValue : Fault → Prop
  | .wrongType | .noOperation | .notAPair => True
  | _ => False

namespace Value

open Fault (BlamesValue)

/-! ## Texts and labels -/

mutual

/-- A value is to blame when it cannot be shown. -/
theorem shown_failsOnly : ∀ v : Value, FailsOnly BlamesValue v.shown
  | .null | .bool _ | .int _ | .float _ | .str _ | .bytes _ | .command _ | .settings _ => .ok _
  | .list items => .bind (shownItems_failsOnly items) fun _ => .ok _
  | .tuple items => .bind (shownItems_failsOnly items) fun _ => .ok _
  | .dict entries => .bind (shownEntries_failsOnly entries) fun _ => .ok _
  | .element _ => .error trivial

theorem shownItems_failsOnly : ∀ items : List Value, FailsOnly BlamesValue (shownItems items)
  | [] => .ok _
  | item :: items =>
    .bind (shown_failsOnly item) fun _ => .bind (shownItems_failsOnly items) fun _ => .ok _

theorem shownEntries_failsOnly :
    ∀ entries : List (Value × Value), FailsOnly BlamesValue (shownEntries entries)
  | [] => .ok _
  | (key, value) :: entries =>
    .bind (shown_failsOnly key) fun _ => .bind (shown_failsOnly value) fun _ =>
      .bind (shownEntries_failsOnly entries) fun _ => .ok _

end

theorem settingsText_failsOnly (s : Settings Value) : FailsOnly BlamesValue (settingsText s) := by
  unfold settingsText
  split
  · exact .ok _
  · exact .ok _
  · exact .error trivial

/-- **A value is to blame when it has no text.** -/
theorem text_failsOnly : ∀ v : Value, FailsOnly BlamesValue v.text
  | .str _ | .command _ => .ok _
  | .settings s => settingsText_failsOnly s
  | .null | .bool _ | .int _ | .float _ | .bytes _ | .list _ | .tuple _ | .dict _ | .element _ =>
    shown_failsOnly _

theorem label_failsOnly (v : Value) : FailsOnly BlamesValue v.label := by
  have htext := text_failsOnly v
  cases v with
  | command _ => exact .ok _
  | _ => exact htext

theorem designated?_failsOnly : ∀ v : Value, FailsOnly BlamesValue v.designated?
  | .command _ | .str _ => .ok _
  | .null | .bool _ | .int _ | .float _ | .bytes _ | .list _ | .tuple _ | .dict _ | .element _
  | .settings _ => .bind (shown_failsOnly _) fun _ => .ok _

/-! ## Keys and entries -/

mutual

/-- A value is to blame when it is no key. -/
theorem blamesValue_of_keyFault? : ∀ (v : Value) (fault : Fault), v.keyFault? = some fault →
    fault.BlamesValue
  | .list _, _, h | .dict _, _, h => Option.some.inj h ▸ trivial
  | .tuple items, fault, h => by
    rw [keyFault?] at h
    exact blamesValue_of_keysFault? items fault h
  | .element id, _, h => by
    cases id with
    | str s => cases h
    | _ => exact Option.some.inj h ▸ trivial
  | .null, _, h | .bool _, _, h | .int _, _, h | .float _, _, h | .str _, _, h | .bytes _, _, h
  | .command _, _, h | .settings _, _, h => nomatch h

theorem blamesValue_of_keysFault? : ∀ (items : List Value) (fault : Fault),
    keysFault? items = some fault → fault.BlamesValue
  | [], _, h => nomatch h
  | item :: items, fault, h => by
    rw [keysFault?] at h
    rcases hitem : item.keyFault? with _ | found
    · rw [hitem] at h
      exact blamesValue_of_keysFault? items fault h
    · rw [hitem] at h
      obtain rfl : found = fault := Option.some.inj h
      exact blamesValue_of_keyFault? item found hitem

end

theorem asKey_failsOnly (v : Value) : FailsOnly BlamesValue v.asKey := by
  unfold asKey
  split
  · next fault hfault => exact .error (blamesValue_of_keyFault? v fault hfault)
  · exact .ok v

theorem pair?_failsOnly (v : Value) : FailsOnly BlamesValue v.pair? := by
  unfold pair?
  split
  · exact .ok _
  · exact .ok _
  · exact .ok _
  · split
    · exact .ok _
    · exact .error trivial
  · exact .ok _
  · exact .error trivial
  · exact .error trivial
  · exact .error trivial
  · exact .error trivial
  · exact .error trivial

theorem insertPairs_failsOnly : ∀ (entries : Dict) (pairs : List Value),
    FailsOnly BlamesValue (insertPairs entries pairs)
  | entries, [] => .ok entries
  | _, p :: pairs =>
    .bind (pair?_failsOnly p) fun (key, _) => .bind (asKey_failsOnly key) fun _ =>
      insertPairs_failsOnly _ pairs

theorem items_failsOnly (v : Value) : FailsOnly BlamesValue v.items := by
  cases v with
  | list _ | tuple _ | dict _ | str _ | bytes _ => exact .ok _
  | null | bool _ | int _ | float _ | element _ | command _ | settings _ => exact .error trivial

/-- **A value is to blame when it makes no dictionary.** -/
theorem toDict_failsOnly (v : Value) : FailsOnly BlamesValue v.toDict := by
  have hpairs : FailsOnly BlamesValue (v.items >>= insertPairs []) :=
    .bind (items_failsOnly v) (insertPairs_failsOnly [])
  cases v with
  | dict entries => exact .ok entries
  | null | bool _ | int _ | float _ | str _ | bytes _ | list _ | tuple _ | element _ | command _
  | settings _ => exact hpairs

theorem field?_failsOnly (v : Value) (name : String) : FailsOnly BlamesValue (v.field? name) := by
  unfold field?
  split
  · exact .ok _
  · exact .error trivial

end Value

namespace Css

open Fault (BlamesValue)

/-! ## Selectors -/

theorem keyItems_failsOnly : ∀ items : List Value, FailsOnly BlamesValue (keyItems items)
  | [] => .ok ()
  | item :: items => .bind item.asKey_failsOnly fun _ => keyItems_failsOnly items

theorem joinEscaped_failsOnly : ∀ items : List Value, FailsOnly BlamesValue (joinEscaped items)
  | [] => .ok ""
  | .str _ :: items => .bind (joinEscaped_failsOnly items) fun _ => .ok _
  | .null :: _ | .bool _ :: _ | .int _ :: _ | .float _ :: _ | .bytes _ :: _ | .list _ :: _
  | .tuple _ :: _ | .dict _ :: _ | .element _ :: _ | .command _ :: _ | .settings _ :: _ =>
    .error trivial

theorem escapeSpecialOf_failsOnly (v : Value) : FailsOnly BlamesValue (escapeSpecialOf v) := by
  have hitems : FailsOnly BlamesValue
      (v.items >>= fun items => keyItems items >>= fun _ => joinEscaped items) :=
    .bind v.items_failsOnly fun items =>
      .bind (keyItems_failsOnly items) fun _ => joinEscaped_failsOnly items
  cases v with
  | str s => exact .ok _
  | null | bool _ | int _ | float _ | bytes _ | list _ | tuple _ | dict _ | element _ | command _
  | settings _ => exact hitems

theorem escapeOf_failsOnly (v : Value) : FailsOnly BlamesValue (escapeOf v) :=
  .bind (escapeSpecialOf_failsOnly v) fun _ => .ok _

theorem Legacy.selectorOf_failsOnly (l : Legacy) (v : Value) :
    FailsOnly BlamesValue (l.selectorOf v) := by
  unfold selectorOf
  split
  · exact .ok _
  · exact .error trivial
  · exact .bind (escapeOf_failsOnly v) fun _ => .ok _
  · exact .bind (escapeOf_failsOnly v) fun _ => .ok _
  · exact escapeOf_failsOnly v

/-- **A value is to blame when it cannot be searched for.** -/
theorem bySelector_failsOnly (strategy value : Value) :
    FailsOnly BlamesValue (bySelector strategy value) := by
  unfold bySelector
  split
  · next l _ => exact .bind (l.selectorOf_failsOnly value) fun _ => .ok _
  · exact .ok _

end Css

end BrowserRemote
