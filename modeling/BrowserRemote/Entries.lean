/-!
# Entries — tables that remember the order of their entries

A table is a list of keys with their values, looked up by `List.lookup`.  Setting a key keeps its
place, or puts it at the end.
-/

namespace BrowserRemote

variable {α β : Type} [DecidableEq α]

/-! ## Look-up -/

/-- An entry that is found is there. -/
theorem mem_of_lookup {key : α} {value : β} {entries : List (α × β)}
    (h : entries.lookup key = some value) : (key, value) ∈ entries := by
  obtain ⟨before, after, rfl, -⟩ := List.lookup_eq_some_iff.1 h
  exact List.mem_append_right before List.mem_cons_self

/-- A key that is not found has no entry. -/
theorem not_mem_of_lookup {key : α} {entries : List (α × β)} (h : entries.lookup key = none)
    (value : β) : (key, value) ∉ entries := fun hmem => by
  have hne : (key == key) = false := by
    simpa using List.lookup_eq_none_iff.1 h (key, value) hmem
  simp at hne

/-- A key is not found when it has no entry. -/
theorem lookup_eq_none_iff {key : α} {entries : List (α × β)} :
    entries.lookup key = none ↔ ∀ value, (key, value) ∉ entries := by
  refine ⟨not_mem_of_lookup, fun h => Option.eq_none_iff_forall_ne_some.2 fun value hvalue => ?_⟩
  exact h value (mem_of_lookup hvalue)

/-- **Where no key comes twice**, an entry is found when it is there. -/
theorem lookup_eq_some_iff_mem {key : α} {value : β} {entries : List (α × β)}
    (h : (entries.map Prod.fst).Nodup) :
    entries.lookup key = some value ↔ (key, value) ∈ entries := by
  refine ⟨mem_of_lookup, fun hmem => ?_⟩
  obtain ⟨before, after, rfl⟩ := List.append_of_mem hmem
  refine List.lookup_eq_some_iff.2 ⟨before, after, rfl, fun entry hentry => ?_⟩
  rw [List.map_append, List.map_cons] at h
  obtain ⟨-, -, hapart⟩ := List.nodup_append.1 h
  have hne : entry.1 ≠ key := hapart _ (List.mem_map_of_mem hentry) _ List.mem_cons_self
  exact bne_iff_ne.2 hne.symm

/-- **Where no key comes twice, the order of the entries does not matter.** -/
theorem lookup_eq_of_perm {entries entries' : List (α × β)} (hperm : entries.Perm entries')
    (h : (entries.map Prod.fst).Nodup) (key : α) : entries.lookup key = entries'.lookup key := by
  have h' : (entries'.map Prod.fst).Nodup := (hperm.map Prod.fst).nodup_iff.1 h
  refine Option.ext fun value => ?_
  rw [lookup_eq_some_iff_mem h, lookup_eq_some_iff_mem h', hperm.mem_iff]

/-! ## Change -/

/-- An entry set: replaced where its key stands, or added at the end. -/
def setEntry : List (α × β) → α → β → List (α × β)
  | [], key, value => [(key, value)]
  | (k, v) :: entries, key, value =>
    if k = key then (k, value) :: entries else (k, v) :: setEntry entries key value

/-- Entries set one after the other. -/
def setEntries (entries : List (α × β)) : List (α × β) :=
  entries.foldl (fun table entry => setEntry table entry.1 entry.2) []

/-- **A key that was set has the value it was set to, and no other key changes.** -/
theorem lookup_setEntry (key key' : α) (value : β) : ∀ entries : List (α × β),
    (setEntry entries key value).lookup key' =
      if key' = key then some value else entries.lookup key'
  | [] => by
    by_cases h : key' = key
    · simp [setEntry, h]
    · simp [setEntry, List.lookup_cons, beq_false_of_ne h, h]
  | (k, v) :: entries => by
    by_cases hk : k = key
    · subst hk
      by_cases h : key' = k
      · simp [setEntry, h]
      · simp [setEntry, List.lookup_cons, beq_false_of_ne h, h]
    · by_cases h : key' = k
      · subst h; simp [setEntry, hk]
      · have ih := lookup_setEntry key key' value entries
        simp [setEntry, hk, List.lookup_cons, beq_false_of_ne h, ih]

/-- **A key that was not set goes to the end**, behind all entries as they were. -/
theorem setEntry_of_lookup_eq_none {key : α} (value : β) : ∀ {entries : List (α × β)},
    entries.lookup key = none → setEntry entries key value = entries ++ [(key, value)]
  | [], _ => rfl
  | (k, v) :: entries, h => by
    by_cases hk : k = key
    · subst hk
      rw [List.lookup_cons_self] at h
      cases h
    · have hkey : (key == k) = false := beq_false_of_ne (Ne.symm hk)
      rw [List.lookup_cons, hkey] at h
      rw [setEntry, if_neg hk, setEntry_of_lookup_eq_none value h, List.cons_append]

/-- An entry that is there after one was set is that one, or was there before. -/
theorem mem_of_mem_setEntry {key : α} {value : β} {entry : α × β} : ∀ {entries : List (α × β)},
    entry ∈ setEntry entries key value → entry = (key, value) ∨ entry ∈ entries
  | [], h => Or.inl (List.mem_singleton.1 h)
  | (k, v) :: entries, h => by
    by_cases hk : k = key
    · rw [setEntry, if_pos hk] at h
      rcases List.mem_cons.1 h with rfl | h
      · exact Or.inl (by rw [hk])
      · exact Or.inr (List.mem_cons_of_mem _ h)
    · rw [setEntry, if_neg hk] at h
      rcases List.mem_cons.1 h with rfl | h
      · exact Or.inr List.mem_cons_self
      · exact (mem_of_mem_setEntry h).imp_right (List.mem_cons_of_mem _)

/-- Setting a key does not bring any key in twice. -/
theorem nodup_keys_setEntry (key : α) (value : β) : ∀ {entries : List (α × β)},
    (entries.map Prod.fst).Nodup → ((setEntry entries key value).map Prod.fst).Nodup
  | [], _ => List.nodup_cons.2 ⟨List.not_mem_nil, List.nodup_nil⟩
  | (k, v) :: entries, h => by
    obtain ⟨hfresh, hrest⟩ := List.nodup_cons.1 h
    by_cases hk : k = key
    · rw [setEntry, if_pos hk]
      exact h
    · rw [setEntry, if_neg hk]
      refine List.nodup_cons.2 ⟨fun hmem => ?_, nodup_keys_setEntry key value hrest⟩
      obtain ⟨entry, hentry, hkey⟩ := List.mem_map.1 hmem
      rcases mem_of_mem_setEntry hentry with rfl | hentry
      · exact hk hkey.symm
      · exact hfresh (List.mem_map.2 ⟨entry, hentry, hkey⟩)

end BrowserRemote
