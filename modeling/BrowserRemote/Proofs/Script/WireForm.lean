import BrowserRemote.Script.Normal

/-!
# Proofs/Script/WireForm — what becomes of a value that travels

    value        [ handle, (1, x) ]
                     │       │
    travels as   [ reference, [1, x'] ]

What stands at a place of a value travels to the same place (`at?_toWire`), and on its outside only
tuples and handles change (`travels_toWire`).  So a value stays as it is when it is wire-normal, and
becomes wire-normal when the identifiers in its handles are, for these are not converted.  All of it
is induction on the values inside a value (`Value.inside_induction`), with one lemma for each notion
that says what it is on the outside and inside.
-/

namespace BrowserRemote

namespace Value

/-! ## Inside a value -/

/-- The values right inside a value, in order: the items of a list or a tuple, the values of a
dictionary.  Keys are not inside, and neither is the identifier of a handle. -/
def inside : Value → List Value
  | .list items | .tuple items => items
  | .dict entries => entries.map Prod.snd
  | .null | .bool _ | .int _ | .float _ | .str _ | .bytes _ | .element _ | .command _
  | .settings _ => []

/-- **The value at a place**: which of the values inside to go to, step by step. -/
def at? (v : Value) : List Nat → Option Value
  | [] => some v
  | i :: place => v.inside[i]?.bind fun w => w.at? place

@[simp] theorem at?_nil (v : Value) : v.at? [] = some v := rfl

theorem at?_cons_eq_some_iff {v u : Value} {i : Nat} {place : List Nat} :
    v.at? (i :: place) = some u ↔ ∃ w, v.inside[i]? = some w ∧ w.at? place = some u :=
  Option.bind_eq_some_iff

mutual

/-- **What holds of a value if it holds of all values inside it** holds of every value. -/
theorem inside_induction {P : Value → Prop} (step : ∀ v, (∀ w ∈ v.inside, P w) → P v) :
    ∀ v, P v
  | .list items => step _ (inside_induction_items step items)
  | .tuple items => step _ (inside_induction_items step items)
  | .dict entries => step _ (inside_induction_entries step entries)
  | .null | .bool _ | .int _ | .float _ | .str _ | .bytes _ | .element _ | .command _
  | .settings _ => step _ fun _ hw => absurd hw List.not_mem_nil

theorem inside_induction_items {P : Value → Prop} (step : ∀ v, (∀ w ∈ v.inside, P w) → P v) :
    ∀ items : List Value, ∀ w ∈ items, P w
  | [] => fun _ hw => absurd hw List.not_mem_nil
  | item :: items => List.forall_mem_cons.2
      ⟨inside_induction step item, inside_induction_items step items⟩

theorem inside_induction_entries {P : Value → Prop} (step : ∀ v, (∀ w ∈ v.inside, P w) → P v) :
    ∀ entries : List (Value × Value), ∀ w ∈ entries.map Prod.snd, P w
  | [] => fun _ hw => absurd hw List.not_mem_nil
  | (_, value) :: entries => List.forall_mem_cons.2
      ⟨inside_induction step value, inside_induction_entries step entries⟩

end

/-- A place leads to the value itself or on from a value inside it. -/
theorem exists_at?_iff {v : Value} {P : Value → Prop} :
    (∃ place u, v.at? place = some u ∧ P u)
      ↔ P v ∨ ∃ w ∈ v.inside, ∃ place u, w.at? place = some u ∧ P u := by
  constructor
  · rintro ⟨_ | ⟨i, place⟩, u, hu, hP⟩
    · exact Or.inl (Option.some.inj hu ▸ hP)
    · obtain ⟨w, hw, hu⟩ := at?_cons_eq_some_iff.1 hu
      exact Or.inr ⟨w, List.mem_of_getElem? hw, place, u, hu, hP⟩
  · rintro (hP | ⟨w, hw, place, u, hu, hP⟩)
    · exact ⟨[], v, rfl, hP⟩
    · obtain ⟨i, hi⟩ := List.mem_iff_getElem?.1 hw
      exact ⟨i :: place, u, at?_cons_eq_some_iff.2 ⟨w, hi, hu⟩, hP⟩

end Value

namespace Script

/-! ## On the outside -/

/-- The values that do not travel as they are: tuples and handles. -/
def Converted : Value → Prop
  | .tuple _ | .element _ => True
  | .list _ | .dict _ | .null | .bool _ | .int _ | .float _ | .str _ | .bytes _ | .command _
  | .settings _ => False

/-- **What becomes of the outside of a value**, the values inside it left aside: a list or a tuple
becomes a list of the same length, a dictionary keeps its keys in their order, and a handle becomes
the reference to its identifier, which stays as it is.  All else stays. -/
inductive Travels : Value → Value → Prop
  | list {items items' : List Value} (length : items'.length = items.length) :
      Travels (.list items) (.list items')
  | tuple {items items' : List Value} (length : items'.length = items.length) :
      Travels (.tuple items) (.list items')
  | dict {entries entries' : Dict} (keys : entries'.map Prod.fst = entries.map Prod.fst) :
      Travels (.dict entries) (.dict entries')
  | handle (id : Value) : Travels (.element id) (.dict [(.str elementKey, id)])
  | plain {v : Value} (noList : ∀ items, v ≠ .list items) (noDict : ∀ entries, v ≠ .dict entries)
      (kept : ¬ Converted v) : Travels v v

theorem travels_toWire : ∀ v : Value, Travels v (toWire v)
  | .list items => .list (by rw [itemsToWire_eq_map, List.length_map])
  | .tuple items => .tuple (by rw [itemsToWire_eq_map, List.length_map])
  | .dict entries => .dict (by simp [entriesToWire_eq_map])
  | .element id => .handle id
  | .null | .bool _ | .int _ | .float _ | .str _ | .bytes _ | .command _ | .settings _ =>
    .plain nofun nofun id

/-- The values inside travel one by one, those of a handle apart. -/
theorem inside_toWire {v : Value} (hv : ∀ id, v ≠ .element id) :
    (toWire v).inside = v.inside.map toWire := by
  cases v with
  | list items | tuple items => exact itemsToWire_eq_map items
  | dict entries => simp [toWire, entriesToWire_eq_map, Value.inside]
  | element id => exact absurd rfl (hv id)
  | _ => rfl

/-- **What stands at a place travels to the same place.** -/
theorem at?_toWire {v u : Value} {place : List Nat} (h : v.at? place = some u) :
    (toWire v).at? place = some (toWire u) := by
  induction place generalizing v with
  | nil => exact congrArg some (congrArg toWire (Option.some.inj h))
  | cons i place ih =>
    obtain ⟨w, hw, hu⟩ := Value.at?_cons_eq_some_iff.1 h
    have hhandle : ∀ id, v ≠ .element id := by
      rintro id rfl
      exact absurd hw nofun
    refine Value.at?_cons_eq_some_iff.2 ⟨toWire w, ?_, ih hu⟩
    rw [inside_toWire hhandle, List.getElem?_map, hw, Option.map_some]

/-! ## Wire-normal values -/

/-- A value is wire-normal when it is neither a tuple nor a handle, and all values inside are. -/
theorem wireNormal_iff_inside (v : Value) :
    WireNormal v ↔ ¬ Converted v ∧ ∀ w ∈ v.inside, WireNormal w := by
  cases v with
  | list items => simp [WireNormal, itemsNormal_iff, Converted, Value.inside]
  | dict entries =>
    simp only [WireNormal, entriesNormal_iff, Converted, Value.inside, not_false_iff, true_and,
      List.forall_mem_map]
  | _ => simp [WireNormal, Converted, Value.inside]

/-- Converting items or entries one by one leaves them as they are when it leaves each as it is. -/
theorem map_toWire_eq_self_iff (items : List Value) :
    items.map toWire = items ↔ ∀ w ∈ items, toWire w = w := by
  simpa only [List.map_id, id_eq] using List.map_inj_left (f := toWire) (g := id) (l := items)

theorem entriesToWire_eq_self_iff (entries : Dict) :
    entriesToWire entries = entries ↔ ∀ w ∈ entries.map Prod.snd, toWire w = w := by
  rw [entriesToWire_eq_map, List.forall_mem_map]
  constructor
  · intro h entry hentry
    have hpairs := List.map_inj_left.1 (h.trans (List.map_id entries).symm) entry hentry
    exact congrArg Prod.snd hpairs
  · intro h
    calc entries.map (fun e => (e.1, toWire e.2))
      _ = entries.map id := List.map_congr_left fun entry hentry => by rw [h entry hentry]; rfl
      _ = entries := List.map_id entries

/-- A value stays as it is when it is neither a tuple nor a handle, and all values inside stay. -/
theorem toWire_eq_self_iff_inside (v : Value) :
    toWire v = v ↔ ¬ Converted v ∧ ∀ w ∈ v.inside, toWire w = w := by
  cases v with
  | list items =>
    simp [toWire, itemsToWire_eq_map, map_toWire_eq_self_iff, Converted, Value.inside]
  | dict entries =>
    simp only [toWire, Value.dict.injEq, entriesToWire_eq_self_iff, Converted, Value.inside,
      not_false_iff, true_and]
  | tuple items => exact ⟨nofun, fun h => absurd trivial h.1⟩
  | element id => exact ⟨nofun, fun h => absurd trivial h.1⟩
  | _ => simp [toWire, Converted, Value.inside]

/-- **A value stays as it is exactly when it is wire-normal.** -/
theorem toWire_eq_self_iff (v : Value) : toWire v = v ↔ WireNormal v := by
  induction v using Value.inside_induction with
  | step v ih =>
    rw [toWire_eq_self_iff_inside, wireNormal_iff_inside]
    exact and_congr_right fun _ => forall₂_congr ih

/-- **Wire-normal values** have neither a tuple nor a handle at any place. -/
theorem wireNormal_iff_at? (v : Value) :
    WireNormal v ↔ ¬ ∃ place u, v.at? place = some u ∧ Converted u := by
  induction v using Value.inside_induction with
  | step v ih =>
    rw [wireNormal_iff_inside, Value.exists_at?_iff, not_or]
    refine and_congr_right fun _ => ⟨?_, fun h w hw => (ih w hw).2 fun hplace => h ⟨w, hw, hplace⟩⟩
    rintro h ⟨w, hw, hplace⟩
    exact (ih w hw).1 (h w hw) hplace

/-! ## Handles -/

theorem reachedInItems_eq : ∀ items : List Value,
    reachedInItems items = items.flatMap reachedIds
  | [] => rfl
  | item :: items => by rw [reachedInItems, reachedInItems_eq items, List.flatMap_cons]

theorem reachedInEntries_eq : ∀ entries : Dict,
    reachedInEntries entries = (entries.map Prod.snd).flatMap reachedIds
  | [] => rfl
  | (key, value) :: entries => by
    rw [reachedInEntries, reachedInEntries_eq entries, List.map_cons, List.flatMap_cons]

/-- The handles reached in a value: itself, or those reached in the values inside. -/
theorem mem_reachedIds_iff_inside (v id : Value) :
    id ∈ reachedIds v ↔ v = .element id ∨ ∃ w ∈ v.inside, id ∈ reachedIds w := by
  cases v with
  | list items | tuple items => simp [reachedIds, reachedInItems_eq, Value.inside]
  | dict entries => simp [reachedIds, reachedInEntries_eq, Value.inside]
  | _ => simp [reachedIds, Value.inside, eq_comm]

/-- **Handles are reached at places.** -/
theorem mem_reachedIds_iff_at? (v id : Value) :
    id ∈ reachedIds v ↔ ∃ place u, v.at? place = some u ∧ u = .element id := by
  induction v using Value.inside_induction with
  | step v ih =>
    rw [mem_reachedIds_iff_inside, Value.exists_at?_iff]
    exact or_congr_right (exists_congr fun w => and_congr_right fun hw => ih w hw)

theorem not_converted_toWire (v : Value) : ¬ Converted (toWire v) := by
  cases v <;> exact id

/-- **What a value travels as is wire-normal** when the identifiers in its handles are. -/
theorem wireNormal_toWire_iff (v : Value) :
    WireNormal (toWire v) ↔ ∀ id ∈ reachedIds v, WireNormal id := by
  induction v using Value.inside_induction with
  | step v ih =>
    by_cases hhandle : ∃ id, v = .element id
    · obtain ⟨id, rfl⟩ := hhandle
      simp [toWire, elementReference, WireNormal, EntriesNormal, reachedIds]
    · have hinside := inside_toWire (not_exists.1 hhandle)
      rw [wireNormal_iff_inside, hinside, List.forall_mem_map]
      constructor
      · rintro ⟨-, h⟩ id hid
        obtain hv | ⟨w, hw, hid⟩ := (mem_reachedIds_iff_inside v id).1 hid
        · exact absurd ⟨id, hv⟩ hhandle
        · exact (ih w hw).1 (h w hw) id hid
      · intro h
        refine ⟨not_converted_toWire v, fun w hw => (ih w hw).2 fun id hid => ?_⟩
        exact h id ((mem_reachedIds_iff_inside v id).2 (Or.inr ⟨w, hw, hid⟩))

/-! ## The wire form -/

/-- **Values travel into their wire form.**  Wire-normal values are those without a tuple and
without a handle at any place, and just these travel as they are.  What any value travels as is
wire-normal, and does not change any more, exactly when the identifiers of all its handles are
wire-normal, as texts are: identifiers are not converted.  At every place lists and tuples keep
their length and their order, dictionaries keep their keys in order, and a handle becomes the
reference to its identifier. -/
theorem wire_form_up_to_identifiers (v : Value) :
    (WireNormal v ↔ ∀ place u, v.at? place = some u → ¬ Converted u)
    ∧ (∀ id, id ∈ reachedIds v ↔ ∃ place, v.at? place = some (.element id))
    ∧ (toWire v = v ↔ WireNormal v)
    ∧ (WireNormal (toWire v) ↔ ∀ id ∈ reachedIds v, WireNormal id)
    ∧ (toWire (toWire v) = toWire v ↔ ∀ id ∈ reachedIds v, WireNormal id)
    ∧ ((∀ id ∈ reachedIds v, ∃ s, id = .str s) → WireNormal (toWire v))
    ∧ ∀ place u, v.at? place = some u → ∃ u', (toWire v).at? place = some u' ∧ Travels u u' := by
  have hnormal := wireNormal_toWire_iff v
  refine ⟨?_, fun id => ?_, toWire_eq_self_iff v, hnormal,
    (toWire_eq_self_iff (toWire v)).trans hnormal, fun htexts => hnormal.2 fun id hid => ?_,
    fun place u hu => ⟨toWire u, at?_toWire hu, travels_toWire u⟩⟩
  · rw [wireNormal_iff_at?]
    simp only [not_exists, not_and]
  · rw [mem_reachedIds_iff_at?]
    simp only [exists_eq_right]
  · obtain ⟨s, rfl⟩ := htexts id hid
    trivial

/-- A handle with a tuple for its identifier changes twice. -/
example : toWire (toWire (.element (.tuple []))) = .dict [(.str elementKey, .list [])] := rfl

end Script

end BrowserRemote
