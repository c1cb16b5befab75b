import BrowserRemote.Proofs.Atom.Answers

/-!
# Proofs/Atom/Chains — mappings in front of one another are one mapping

    m₁ ──lacks it──▸ m₂ ──lacks it──▸ … ──lacks it──▸ base
     │                │
     └──has it────────┴──▸ its own source

A chain asks its mappings in turn and its base last (`sourceBehind_chain`).  Laid over one another,
earlier ones on top, the mappings have for every name what the first of them has that has it
(`lookup_merged`), so the chain answers as one mapping in front of the same base.
-/

namespace BrowserRemote

/-! ## Keys that are texts -/

/-- A text is found by the same text only. -/
theorem Value.eq_of_sameKey_str {v : Value} {s : String} (h : v.sameKey (.str s) = true) :
    v = .str s := by
  cases v with
  | str t => rw [beq_iff_eq.1 h]
  | _ => exact absurd h nofun

namespace Dict

/-- The dictionary whose keys are texts. -/
def ofFields (fields : List (String × Value)) : Dict := fields.map fun e => (.str e.1, e.2)

/-- Only a text is found among keys that are texts. -/
theorem get?_ofFields (key : Value) : ∀ fields : List (String × Value),
    get? (ofFields fields) key = match key with
      | .str name => fields.lookup name
      | _ => none
  | [] => by cases key <;> rfl
  | (k, v) :: fields => by
    have ih := get?_ofFields key fields
    change (if key.sameKey (.str k) then some v else get? (ofFields fields) key) = _
    split
    · next hkey =>
      obtain rfl := Value.eq_of_sameKey_str hkey
      simp
    · next hkey =>
      rw [ih]
      cases key with
      | str name =>
        have hname : (name == k) = false := Bool.eq_false_iff.2 hkey
        simp [List.lookup_cons, hname]
      | _ => rfl

theorem get?_ofFields_str (name : String) (fields : List (String × Value)) :
    get? (ofFields fields) (.str name) = fields.lookup name := get?_ofFields (.str name) fields

end Dict

/-! ## Laying tables over one another -/

section Merged

variable {α β : Type} [DecidableEq α]

/-- A table laid over another one: its entries are set, the first one last, so that of two entries
with one key the first counts, as in looking up. -/
def laidOver (top below : List (α × β)) : List (α × β) :=
  top.foldr (fun entry table => setEntry table entry.1 entry.2) below

/-- **Tables merged into one**, earlier ones over later ones. -/
def merged (tables : List (List (α × β))) : List (α × β) := tables.foldr laidOver []

/-- What lies on top counts. -/
theorem lookup_laidOver (key : α) (below : List (α × β)) : ∀ top : List (α × β),
    (laidOver top below).lookup key = (top.lookup key).or (below.lookup key)
  | [] => rfl
  | (k, v) :: top => by
    change (setEntry (laidOver top below) k v).lookup key = _
    rw [lookup_setEntry, lookup_laidOver key below top]
    by_cases hkey : key = k
    · simp [hkey]
    · simp [List.lookup_cons, beq_false_of_ne hkey, hkey]

/-- **The first table that has a key** gives its value. -/
theorem lookup_merged (key : α) : ∀ tables : List (List (α × β)),
    (merged tables).lookup key = tables.findSome? (·.lookup key)
  | [] => rfl
  | table :: tables => by
    change (laidOver table (merged tables)).lookup key = _
    rw [lookup_laidOver, lookup_merged key tables, List.findSome?_cons]
    cases table.lookup key <;> rfl

/-- Laying a table over another one brings in no key twice. -/
theorem nodup_keys_laidOver {below : List (α × β)} (h : (below.map Prod.fst).Nodup) :
    ∀ top : List (α × β), ((laidOver top below).map Prod.fst).Nodup
  | [] => h
  | (k, v) :: top => nodup_keys_setEntry k v (nodup_keys_laidOver h top)

theorem nodup_keys_merged : ∀ tables : List (List (α × β)), ((merged tables).map Prod.fst).Nodup
  | [] => List.nodup_nil
  | table :: tables => nodup_keys_laidOver (nodup_keys_merged tables) table

end Merged

namespace Repository

variable {files : FileTree} {name : Value}

/-! ## Chains -/

/-- **Mappings in front of one another**, the last one in front of a base. -/
def chain : List Dict → Option Repository → Option Repository
  | [], base => base
  | sources :: rest, base => some (.mapping sources (chain rest base))

/-- A mapping is asked for names that can be keys. -/
theorem source_mapping_of_key (hname : name.keyFault? = none) (sources : Dict)
    (fallback : Option Repository) :
    (mapping sources fallback).source files name = match sources.get? name with
      | some value => pure value
      | none => sourceBehind files fallback name := by
  have hkey : (Traced.ofExcept name.asKey).outcome = .ok name := by
    change name.asKey = .ok name
    rw [Value.asKey, hname]
  exact Traced.bind_ok hkey _

/-- For a name that cannot be a key it fails, whatever its sources are. -/
theorem source_mapping_of_keyFault {fault : Fault} (hname : name.keyFault? = some fault)
    (sources : Dict) (fallback : Option Repository) :
    (mapping sources fallback).source files name = .fail fault := by
  have hkey : (Traced.ofExcept name.asKey).outcome = .error fault := by
    change name.asKey = .error fault
    rw [Value.asKey, hname]
  exact Traced.bind_error hkey _

/-- **A chain asks its mappings in turn, and its base last.** -/
theorem sourceBehind_chain (hname : name.keyFault? = none) (base : Option Repository) :
    ∀ mappings : List Dict, sourceBehind files (chain mappings base) name =
      match mappings.findSome? (·.get? name) with
        | some value => pure value
        | none => sourceBehind files base name
  | [] => rfl
  | sources :: rest => by
    change (mapping sources (chain rest base)).source files name = _
    rw [source_mapping_of_key hname, List.findSome?_cons]
    cases sources.get? name with
    | some value => rfl
    | none => exact sourceBehind_chain hname base rest

/-- What merged mappings have is what the first of them has that has anything. -/
theorem get?_merged (key : Value) (mappings : List (List (String × Value))) :
    Dict.get? (.ofFields (merged mappings)) key
      = (mappings.map Dict.ofFields).findSome? (·.get? key) := by
  simp only [List.findSome?_map, Function.comp_def, Dict.get?_ofFields]
  cases key with
  | str name => exact lookup_merged name mappings
  | _ => exact (List.findSome?_eq_none_iff.2 fun _ _ => rfl).symm

/-- **A chain of mappings is one mapping**: that of all of them merged, earlier ones winning.  For
the name of an atom it gives the source of the first mapping that has that name, the null value
too, and nothing behind that mapping counts or is asked, for its answer would bring records with
it.  A name that no mapping has is not found if there is no base, and otherwise gets the base's
answer, whatever it is, with its records.  For every name at all, one that is no text or cannot be
a key included, the chain answers as the merged mapping in front of the same base. -/
theorem chained_mappings_are_one (files : FileTree) (first : List (String × Value))
    (others : List (List (String × Value))) (base : Option Repository) :
    let chained : Repository := .mapping (.ofFields first) (chain (others.map .ofFields) base)
    let single : Repository := .mapping (.ofFields (merged (first :: others))) base
    (∀ atom,
      (∀ before own after value, first :: others = before ++ own :: after →
        (∀ earlier ∈ before, earlier.lookup atom = none) → own.lookup atom = some value →
          chained.source files (.str atom) = pure value)
      ∧ ((∀ own ∈ first :: others, own.lookup atom = none) →
        (base = none → ∃ fault, chained.source files (.str atom) = .fail fault
          ∧ fault.isAtomNotFound = true ∧ fault.message = "no such atom: " ++ atom)
        ∧ ∀ next, base = some next →
          chained.source files (.str atom) = next.source files (.str atom)))
    ∧ ((merged (first :: others)).map Prod.fst).Nodup
    ∧ (∀ atom, (merged (first :: others)).lookup atom
        = (first :: others).findSome? (·.lookup atom))
    ∧ ∀ name, chained.source files name = single.source files name := by
  intro chained single
  have hchained {name : Value} (hname : name.keyFault? = none) : chained.source files name =
      match ((first :: others).map Dict.ofFields).findSome? (·.get? name) with
        | some value => pure value
        | none => sourceBehind files base name :=
    sourceBehind_chain hname base ((first :: others).map .ofFields)
  have hatom (atom : String) : chained.source files (.str atom) =
      match (first :: others).findSome? (·.lookup atom) with
        | some value => pure value
        | none => sourceBehind files base (.str atom) := by
    rw [hchained rfl, ← get?_merged, Dict.get?_ofFields_str, lookup_merged]
  refine ⟨fun atom => ⟨?_, fun hlacking => ?_⟩, nodup_keys_merged _,
    fun atom => lookup_merged atom _, fun name => ?_⟩
  · intro before own after value hsplit hearlier hown
    have hfound : (first :: others).findSome? (·.lookup atom) = some value :=
      List.findSome?_eq_some_iff.2 ⟨before, own, after, hsplit, hown, hearlier⟩
    rw [hatom, hfound]
  · rw [hatom, List.findSome?_eq_none_iff.2 hlacking]
    refine ⟨?_, ?_⟩
    · rintro rfl
      exact ⟨.noSuchAtom atom, rfl, rfl, rfl⟩
    · rintro next rfl
      rfl
  · cases hname : name.keyFault? with
    | some fault =>
      exact (source_mapping_of_keyFault hname _ _).trans
        (source_mapping_of_keyFault hname _ _).symm
    | none => rw [hchained hname, source_mapping_of_key hname, get?_merged]

/-- A null value in an earlier mapping is the answer, though a later one has a text. -/
example : ((mapping [(.str "a.js", .null)] (chain [[(.str "a.js", .str "f")]] none)).source .empty
    (.str "a.js")) = pure .null := rfl

end Repository

end BrowserRemote
