import BrowserRemote.Settings.History
import Mathlib.Data.List.Induction
import Mathlib.Data.List.Nodup

/-!
# Proofs/Settings/Latest — what a shelf answers after a run of calls

    make W3C ── make JSONWIRE ── find ── make ✗ ── clear ── make W3C ──▸ …
                                                               │
                                                               ▼
                                                     all that find can answer

A call does nothing to the shelf, puts one thing on it, or clears it (`effect`).  So it changes what
stands under a key only by making settings of that key or by clearing (`Effect.held?_eq_some_iff`),
and the latest settings of a run change in the same ways when a call is added (`latest_concat_iff`):
whatever failed on the way, what stands there after a run is the latest (`held?_attemptAll`).
-/

namespace BrowserRemote.Shelf

/-! ## One call -/

theorem dialectOf_eq_ok_iff {key : String} {d : Dialect} : dialectOf key = .ok d ↔ key = d.key := by
  rw [← Dialect.ofKey?_eq_some_iff, dialectOf]
  split
  · next hd => rw [hd, Except.ok.injEq, Option.some.injEq]
  · next hd => rw [hd]; exact ⟨nofun, nofun⟩

theorem dialectOf_eq_error_iff {key : String} {fault : Fault} :
    dialectOf key = .error fault ↔ (∀ d : Dialect, d.key ≠ key) ∧ fault = .unknownDialect key := by
  rw [dialectOf]
  split
  · next d hd =>
    exact ⟨nofun, fun h => absurd (Dialect.ofKey?_eq_some_iff.1 hd).symm (h.1 d)⟩
  · next hnone =>
    have hkey (d : Dialect) (h : d.key = key) : False := by
      rw [Dialect.ofKey?_eq_some_iff.2 h.symm] at hnone
      cases hnone
    exact ⟨fun h => ⟨hkey, (Except.error.inj h).symm⟩, fun h => by rw [h.2]⟩

/-- **Settings that are made** are of the dialect that was named, have the serial number that was
next, and go on the shelf in place of those of their dialect. -/
theorem of_make_eq_ok {shelf shelf' : Shelf} {dialect atomPath atoms : Value} {s : Settings Value}
    (h : shelf.make dialect atomPath atoms = .ok (s, shelf')) :
    Dialect.keyOf dialect = .ok s.dialect.key ∧ s.serial = shelf.made ∧ shelf' = shelf.put s := by
  rw [make_eq] at h
  obtain ⟨key, hkey, h⟩ := ok_of_bind h
  obtain ⟨d, hd, h⟩ := ok_of_bind h
  obtain ⟨entries, -, h⟩ := ok_of_bind h
  obtain ⟨rfl, rfl⟩ := Prod.mk.inj (Except.ok.inj h)
  exact ⟨hkey.trans (congrArg _ (dialectOf_eq_ok_iff.1 hd)), rfl, rfl⟩

/-- **A text makes no settings** if it names no dialect, or else if the atoms make no dictionary. -/
theorem make_str_eq_error_iff {shelf : Shelf} {name : String} {atomPath atoms : Value}
    {fault : Fault} : shelf.make (.str name) atomPath atoms = .error fault ↔
      ((∀ d : Dialect, d.key ≠ Dialect.normalKey name)
          ∧ fault = .unknownDialect (Dialect.normalKey name))
        ∨ (∃ d : Dialect, d.key = Dialect.normalKey name)
          ∧ atoms ≠ .null ∧ atoms.toDict = .error fault := by
  rw [← dialectOf_eq_error_iff, ← atomsOf_eq_error_iff, make_eq]
  constructor
  · intro h
    rcases error_of_bind h with h | ⟨key, hkey, h⟩
    · cases h
    obtain rfl := Except.ok.inj hkey
    rcases error_of_bind h with h | ⟨d, hd, h⟩
    · exact Or.inl h
    rcases error_of_bind h with h | ⟨entries, -, h⟩
    · exact Or.inr ⟨⟨d, (dialectOf_eq_ok_iff.1 hd).symm⟩, h⟩
    · cases h
  · change _ → (dialectOf (Dialect.normalKey name) >>= fun _ => atomsOf atoms >>= fun _ => _) = _
    rintro (h | ⟨⟨d, hd⟩, h⟩)
    · rw [h]
      rfl
    · rw [dialectOf_eq_ok_iff.2 hd.symm, h]
      rfl

theorem makes_make_iff {shelf : Shelf} {dialect atomPath atoms : Value} {key : String}
    {s : Settings Value} : shelf.Makes (.make dialect atomPath atoms) key s ↔
      key = s.dialect.key ∧ ∃ shelf', shelf.make dialect atomPath atoms = .ok (s, shelf') := by
  constructor
  · rintro ⟨_, _, _, hcall, hkey, hmade⟩
    obtain ⟨rfl, rfl, rfl⟩ := Call.make.inj hcall
    rcases hmake : shelf.make dialect atomPath atoms with fault | ⟨s', shelf'⟩
    · rw [perform_make_of_error hmake] at hmade
      cases hmade
    · rw [perform_make_of_ok hmake] at hmade
      obtain rfl := Option.some.inj (Except.ok.inj hmade)
      exact ⟨Except.ok.inj (hkey.symm.trans (of_make_eq_ok hmake).1), shelf', rfl⟩
  · rintro ⟨rfl, shelf', hmake⟩
    refine ⟨dialect, atomPath, atoms, rfl, (of_make_eq_ok hmake).1, ?_⟩
    rw [perform_make_of_ok hmake]

/-- Looking settings up leaves the shelf as it is. -/
theorem attempt_find (shelf : Shelf) (dialect : Value) : shelf.attempt (.find dialect) = shelf := by
  rw [attempt, perform_find]

/-- **A call that fails leaves the shelf as it is.** -/
theorem attempt_of_error {shelf : Shelf} {call : Call} {fault : Fault}
    (h : (perform call shelf).1 = .error fault) : shelf.attempt call = shelf := by
  cases call with
  | make dialect atomPath atoms =>
    rcases hmake : shelf.make dialect atomPath atoms with fault' | ⟨s, shelf'⟩
    · rw [attempt, perform_make_of_error hmake]
    · rw [perform_make_of_ok hmake] at h
      cases h
  | find dialect => exact attempt_find shelf dialect
  | clear => cases h

/-- What a call can do to a shelf. -/
inductive Effect (shelf : Shelf) (call : Call) : Shelf → Prop where
  | idle (unchanged : ∀ key, ¬ shelf.Changes call key) : Effect shelf call shelf
  | puts (made : Settings Value) (serial : made.serial = shelf.made) (kept : call ≠ .clear)
      (makes : ∀ key s, shelf.Makes call key s ↔ key = made.dialect.key ∧ s = made) :
      Effect shelf call (shelf.put made)
  | clears (cleared : call = .clear) : Effect shelf call shelf.clear

/-- **A call does nothing, puts the settings it made on the shelf, or clears it.** -/
theorem effect (shelf : Shelf) (call : Call) : Effect shelf call (shelf.attempt call) := by
  cases call with
  | make dialect atomPath atoms =>
    rcases hmake : shelf.make dialect atomPath atoms with fault | ⟨made, shelf'⟩
    · rw [attempt, perform_make_of_error hmake]
      refine .idle ?_
      rintro key (hclear | ⟨s, hmakes⟩)
      · cases hclear
      · obtain ⟨-, shelf', hmade⟩ := makes_make_iff.1 hmakes
        rw [hmake] at hmade
        cases hmade
    · obtain ⟨-, hserial, rfl⟩ := of_make_eq_ok hmake
      rw [attempt, perform_make_of_ok hmake]
      refine .puts made hserial Call.noConfusion fun key s => ?_
      rw [makes_make_iff, hmake]
      constructor
      · rintro ⟨rfl, shelf', hmade⟩
        obtain ⟨rfl, -⟩ := Prod.mk.inj (Except.ok.inj hmade)
        exact ⟨rfl, rfl⟩
      · rintro ⟨rfl, rfl⟩
        exact ⟨rfl, _, rfl⟩
  | find dialect =>
    rw [attempt_find]
    refine .idle ?_
    rintro key (hclear | ⟨s, _, _, _, hcall, -⟩)
    · cases hclear
    · cases hcall
  | clear => exact .clears rfl

theorem not_makes_clear (shelf : Shelf) (key : String) (s : Settings Value) :
    ¬ shelf.Makes .clear key s := by
  rintro ⟨_, _, _, hcall, -⟩
  cases hcall

/-- Settings that are put on the shelf stand under their own key, and no other key changes. -/
theorem held?_put (shelf : Shelf) (s : Settings Value) (key : String) :
    (shelf.put s).held? key = if key = s.dialect.key then some s else shelf.held? key := by
  rw [held?, held?]
  rcases hd : Dialect.ofKey? key with _ | d
  · rw [if_neg fun hkey => ?_]
    · rfl
    · rw [Dialect.ofKey?_eq_some_iff.2 hkey] at hd
      cases hd
  · obtain rfl := Dialect.ofKey?_eq_some_iff.1 hd
    rw [Option.bind_some, Option.bind_some, put, lookup_setEntry]
    exact if_congr ⟨congrArg _, Dialect.key_inj⟩ rfl rfl

/-- A cleared shelf has nothing under any key. -/
theorem held?_clear (shelf : Shelf) (key : String) : shelf.clear.held? key = none :=
  Option.bind_fun_none _

theorem tidy_of_entries_eq_nil {shelf : Shelf} (h : shelf.entries = []) : shelf.Tidy :=
  ⟨h ▸ List.nodup_nil, fun _ hentry => absurd (h ▸ hentry) List.not_mem_nil⟩

namespace Effect

variable {shelf shelf' : Shelf} {call : Call}

/-- **What stands under a key after a call**: what the call made under it, or what stood there if
the call does not change that. -/
theorem held?_eq_some_iff (h : Effect shelf call shelf') (key : String) (s : Settings Value) :
    shelf'.held? key = some s ↔
      shelf.Makes call key s ∨ ¬ shelf.Changes call key ∧ shelf.held? key = some s := by
  rcases h with ⟨unchanged⟩ | ⟨made, -, kept, makes⟩ | ⟨rfl⟩
  · have hmakes : ¬ shelf.Makes call key s := fun h => unchanged key (Or.inr ⟨s, h⟩)
    simp [hmakes, unchanged key]
  · rw [held?_put]
    by_cases hkey : key = made.dialect.key
    · simp [Changes, makes, hkey, eq_comm]
    · simp [Changes, makes, hkey, kept]
  · simp [held?_clear, not_makes_clear, Changes]

/-- **A call leaves a tidy shelf tidy.** -/
theorem tidy (h : Effect shelf call shelf') (hshelf : shelf.Tidy) : shelf'.Tidy := by
  rcases h with - | ⟨made, -, -, -⟩ | -
  · exact hshelf
  · refine ⟨nodup_keys_setEntry _ _ hshelf.nodup, fun entry hentry => ?_⟩
    rcases mem_of_mem_setEntry hentry with rfl | hentry
    · rfl
    · exact hshelf.own entry hentry
  · exact tidy_of_entries_eq_nil rfl

/-- A call takes no serial number back. -/
theorem made_le (h : Effect shelf call shelf') : shelf.made ≤ shelf'.made := by
  rcases h with - | ⟨made, -, -, -⟩ | -
  · exact Nat.le_refl _
  · exact Nat.le_succ _
  · exact Nat.le_refl _

/-- **Making settings uses up the serial number that was next.** -/
theorem serial_of_makes (h : Effect shelf call shelf') {key : String} {s : Settings Value}
    (hmakes : shelf.Makes call key s) : s.serial = shelf.made ∧ s.serial < shelf'.made := by
  rcases h with ⟨unchanged⟩ | ⟨made, serial, -, makes⟩ | ⟨rfl⟩
  · exact absurd (Or.inr ⟨s, hmakes⟩) (unchanged key)
  · obtain ⟨-, rfl⟩ := (makes key s).1 hmakes
    exact ⟨serial, serial ▸ Nat.lt_succ_self _⟩
  · exact absurd hmakes (not_makes_clear shelf key s)

end Effect

/-! ## A run of calls -/

section Run

variable {calls : List Call} {call : Call} {i : Nat} {what : Shelf → Call → Prop}

theorem HoldsAt.lt_length (h : HoldsAt calls i what) : i < calls.length := by
  obtain ⟨call, hcall, -⟩ := h
  exact (List.getElem?_eq_some_iff.1 hcall).1

theorem holdsAt_concat_of_lt (hi : i < calls.length) :
    HoldsAt (calls ++ [call]) i what ↔ HoldsAt calls i what := by
  rw [HoldsAt, HoldsAt, List.getElem?_append_left hi,
    List.take_append_of_le_length (Nat.le_of_lt hi)]

theorem holdsAt_concat_length :
    HoldsAt (calls ++ [call]) calls.length what ↔ what (empty.attemptAll calls) call := by
  rw [HoldsAt, List.getElem?_concat_length, List.take_left]
  simp

end Run

/-- **The latest settings after one more call**: those it made under the key, or those that were the
latest if it does not change what stands there. -/
theorem latest_concat_iff (calls : List Call) (call : Call) (key : String) (s : Settings Value) :
    Latest (calls ++ [call]) key s ↔ (empty.attemptAll calls).Makes call key s
      ∨ ¬ (empty.attemptAll calls).Changes call key ∧ Latest calls key s := by
  have hwithin {j : Nat} {what : Shelf → Call → Prop} (h : HoldsAt (calls ++ [call]) j what) :
      j < calls.length ∨ j = calls.length := by
    have hj := h.lt_length
    rw [List.length_append, List.length_singleton] at hj
    omega
  constructor
  · rintro ⟨i, hmakes, hlast⟩
    rcases hwithin hmakes with hi | rfl
    · exact Or.inr ⟨fun h => hlast _ hi (holdsAt_concat_length.2 h), i,
        (holdsAt_concat_of_lt hi).1 hmakes,
        fun j hj h => hlast j hj ((holdsAt_concat_of_lt h.lt_length).2 h)⟩
    · exact Or.inl (holdsAt_concat_length.1 hmakes)
  · rintro (hmakes | ⟨hunchanged, i, hmakes, hlast⟩)
    · refine ⟨calls.length, holdsAt_concat_length.2 hmakes, fun j hj h => ?_⟩
      rcases hwithin h with hj' | rfl <;> omega
    · refine ⟨i, (holdsAt_concat_of_lt hmakes.lt_length).2 hmakes, fun j hj h => ?_⟩
      rcases hwithin h with hj' | rfl
      · exact hlast j hj ((holdsAt_concat_of_lt hj').1 h)
      · exact hunchanged (holdsAt_concat_length.1 h)

/-- **What stands under a key after any calls is the latest that was made under it.** -/
theorem held?_attemptAll (calls : List Call) (key : String) (s : Settings Value) :
    (empty.attemptAll calls).held? key = some s ↔ Latest calls key s := by
  induction calls using List.reverseRecOn with
  | nil =>
    refine ⟨fun h => ?_, fun ⟨i, hmakes, _⟩ => absurd hmakes.lt_length (Nat.not_lt_zero i)⟩
    rw [attemptAll_nil, held?, empty] at h
    simp at h
  | append_singleton calls call ih =>
    rw [attemptAll_concat, (effect _ call).held?_eq_some_iff, latest_concat_iff, ih]

/-- **Any calls leave a shelf tidy.** -/
theorem tidy_attemptAll (calls : List Call) : (empty.attemptAll calls).Tidy := by
  induction calls using List.reverseRecOn with
  | nil => exact tidy_of_entries_eq_nil rfl
  | append_singleton calls call ih =>
    rw [attemptAll_concat]
    exact (effect _ call).tidy ih

/-- No calls take serial numbers back. -/
theorem made_le_attemptAll (shelf : Shelf) (calls : List Call) :
    shelf.made ≤ (shelf.attemptAll calls).made := by
  induction calls using List.reverseRecOn with
  | nil => exact Nat.le_refl _
  | append_singleton calls call ih =>
    rw [attemptAll_concat]
    exact Nat.le_trans ih (effect _ call).made_le

/-- **Settings that are made later have a greater serial number.** -/
theorem serial_lt_of_makesAt {calls : List Call} {i j : Nat} {key key' : String}
    {s s' : Settings Value} (hi : MakesAt calls i key s) (hj : MakesAt calls j key' s')
    (hij : i < j) : s.serial < s'.serial := by
  obtain ⟨call, hcall, hmakes⟩ := hi
  obtain ⟨call', -, hmakes'⟩ := hj
  obtain ⟨between, hbetween⟩ : calls.take (i + 1) <+: calls.take j :=
    List.take_prefix_take_left hij
  rw [List.take_add_one, hcall, Option.toList_some] at hbetween
  calc s.serial
    _ < (empty.attemptAll (calls.take i ++ [call])).made := by
        rw [attemptAll_concat]
        exact ((effect _ call).serial_of_makes hmakes).2
    _ ≤ (empty.attemptAll (calls.take j)).made := by
        rw [← hbetween, attemptAll_append _ (calls.take i ++ [call])]
        exact made_le_attemptAll _ between
    _ = s'.serial := ((effect _ call').serial_of_makes hmakes').1.symm

/-- **A look-up after any calls** answers with the latest settings of the key. -/
theorem perform_find_eq_ok_iff (calls : List Call) (name : String) (s : Settings Value) :
    perform (.find (.str name)) (empty.attemptAll calls) = (.ok (some s), empty.attemptAll calls) ↔
      Latest calls (Dialect.normalKey name) s := by
  rw [← held?_attemptAll, perform_find, find_str]
  rcases (empty.attemptAll calls).held? (Dialect.normalKey name) with _ | held
  · exact ⟨fun h => absurd (Prod.mk.inj h).1 nofun, nofun⟩
  · constructor
    · intro h
      exact Except.ok.inj (Prod.mk.inj h).1
    · intro h
      rw [h]
      rfl

/-- A look-up fails if there are no latest settings. -/
theorem perform_find_eq_error {calls : List Call} {name : String}
    (h : ∀ s, ¬ Latest calls (Dialect.normalKey name) s) :
    perform (.find (.str name)) (empty.attemptAll calls) =
      (.error (.noSettings (Dialect.normalKey name)), empty.attemptAll calls) := by
  have hheld : (empty.attemptAll calls).held? (Dialect.normalKey name) = none :=
    Option.eq_none_iff_forall_ne_some.2 fun s hs => h s ((held?_attemptAll calls _ s).1 hs)
  rw [perform_find, find_str, hheld]
  rfl

/-- A making fails exactly if there is nothing to put on the shelf. -/
theorem perform_make_eq_error_iff {dialect atomPath atoms : Value} {shelf : Shelf} {fault : Fault} :
    (perform (.make dialect atomPath atoms) shelf).1 = .error fault ↔
      shelf.make dialect atomPath atoms = .error fault := by
  rcases hmake : shelf.make dialect atomPath atoms with fault' | ⟨s, shelf'⟩
  · rw [perform_make_of_error hmake]
    exact ⟨fun h => congrArg _ (Except.error.inj h), fun h => congrArg _ (Except.error.inj h)⟩
  · rw [perform_make_of_ok hmake]
    exact ⟨nofun, nofun⟩

end BrowserRemote.Shelf
