import BrowserRemote.Proofs.Route.Decomposition
import BrowserRemote.Proofs.Route.Filling

/-!
# Proofs/Route/Substitution — expanding a path is exact substitution

    /  :a  -:  :b        the one decomposition
    │   │   │   │
    /   x  -:   y        each placeholder by its text, all at once

A path falls into pieces in one way, and expanding puts a text in place of each placeholder and
leaves the literals as they are; what was put in is not looked at again.  If a placeholder has no
text, the first such one in the path is to blame (`Route.fill_eq_error_iff`).  Whether there is a
text depends on the value under the placeholder's name alone: `Dict.Fills` and `Dict.Lacks` exclude
each other and one of them holds (`argument_eq_ok_iff`, `argument_eq_error_iff`).
-/

namespace BrowserRemote

namespace Route

/-- The first placeholder without a text stops the filling. -/
theorem fill_eq_error {value : List Char → Except Fault String} {q : List Char} {fault : Fault}
    (hq : value q = .error fault) {after : List (List Char)} : ∀ {ps : List Piece}
    {before : List (List Char)}, slots ps = before ++ q :: after →
      (∀ b ∈ before, ∃ s, value b = .ok s) → fill value ps = .error fault
  | [], before, hslots, _ => absurd hslots (by simp [slots])
  | .literal cs :: ps, before, hslots, hbefore => by
    have ih : fill value ps = .error fault := fill_eq_error hq hslots hbefore
    rw [fill, ih]
    rfl
  | .slot name :: ps, [], hslots, _ => by
    obtain ⟨rfl, -⟩ := List.cons.inj hslots
    rw [fill, hq]
    rfl
  | .slot name :: ps, b :: before, hslots, hbefore => by
    obtain ⟨rfl, hrest⟩ := List.cons.inj hslots
    obtain ⟨⟨s, hs⟩, hbefore⟩ := List.forall_mem_cons.1 hbefore
    have ih : fill value ps = .error fault := fill_eq_error hq hrest hbefore
    rw [fill, hs, ih]
    rfl

/-- **Filling fails as its first placeholder without a text does.** -/
theorem fill_eq_error_iff {value : List Char → Except Fault String} {ps : List Piece}
    {fault : Fault} : fill value ps = .error fault ↔
      ∃ before q after, slots ps = before ++ q :: after ∧ (∀ b ∈ before, ∃ s, value b = .ok s)
        ∧ value q = .error fault := by
  refine ⟨of_fill_eq_error, ?_⟩
  rintro ⟨before, q, after, hslots, hbefore, hq⟩
  exact fill_eq_error hq hslots hbefore

/-- Only the texts of its placeholders matter to a filled path. -/
theorem flatMap_filled_congr {text text' : List Char → List Char} : ∀ {ps : List Piece},
    (∀ q ∈ slots ps, text q = text' q) →
      ps.flatMap (Piece.filled text) = ps.flatMap (Piece.filled text')
  | [], _ => rfl
  | .literal cs :: ps, h => congrArg (cs ++ ·) (flatMap_filled_congr h)
  | .slot name :: ps, h => by
    obtain ⟨hname, hps⟩ := List.forall_mem_cons.1 h
    rw [List.flatMap_cons, List.flatMap_cons, Piece.filled, Piece.filled, hname,
      flatMap_filled_congr hps]

/-- Filled with itself, a placeholder stays as it was written. -/
theorem Piece.filled_colon_cons (p : Piece) : p.filled (':' :: ·) = p.source := by
  cases p <;> rfl

end Route

namespace Dict

/-- **The text under a name**: that of the value there, which must not be `null`. -/
def Fills (values : Dict) (q w : String) : Prop :=
  ∃ v, values.field? q = some v ∧ v ≠ .null ∧ v.text = .ok w

/-- **Why there is no text under a name**: there is no value, or one that has no text. -/
inductive Lacks (values : Dict) (q : String) : Fault → Prop
  | missing (absent : values.field? q = none ∨ values.field? q = some .null) :
      Lacks values q (.missingParameter q)
  | textless {v : Value} {fault : Fault} (found : values.field? q = some v) (present : v ≠ .null)
      (text : v.text = .error fault) : Lacks values q fault

end Dict

namespace Template

variable {values : Dict} {q : List Char}

theorem argument_eq_ok_iff {w : String} :
    argument (.dict values) q = .ok w ↔ values.Fills (String.ofList q) w := by
  have hq : q = (String.ofList q).toList := String.toList_ofList.symm
  constructor
  · intro h
    rw [hq, argument_dict] at h
    split at h
    · exact absurd h nofun
    · exact absurd h nofun
    · next v hnull hv => exact ⟨v, hv, hnull, h⟩
  · rintro ⟨v, hv, hpresent, htext⟩
    rw [hq, argument_of_some hv hpresent, htext]

theorem argument_eq_error_iff {fault : Fault} :
    argument (.dict values) q = .error fault ↔ values.Lacks (String.ofList q) fault := by
  have hq : q = (String.ofList q).toList := String.toList_ofList.symm
  constructor
  · intro h
    rw [hq, argument_dict] at h
    split at h
    · next hnone => exact Except.error.inj h ▸ .missing (Or.inl hnone)
    · next hnull => exact Except.error.inj h ▸ .missing (Or.inr hnull)
    · next v hnull hv => exact .textless hv hnull h
  · rintro (habsent | ⟨hv, hpresent, htext⟩)
    · rw [hq, argument_of_missing habsent, String.ofList_toList]
    · rw [hq, argument_of_some hv hpresent, htext]

/-- The placeholders are all filled when there is a text under each name. -/
theorem forall_argument_eq_ok_iff {qs : List (List Char)} :
    (∀ q ∈ qs, ∃ w, argument (.dict values) q = .ok w)
      ↔ ∀ q ∈ qs.map String.ofList, ∃ w, values.Fills q w := by
  rw [List.forall_mem_map]
  exact forall₂_congr fun q _ => exists_congr fun w => argument_eq_ok_iff

section Expand

variable {t : Template} {route : String}

theorem exists_expand_eq_ok_iff (ht : t.path = .str route) :
    (∃ s, t.expand (.dict values) = .ok s) ↔
      ∀ q ∈ (Route.slots (Route.pieces route.toList)).map String.ofList, ∃ w, values.Fills q w := by
  rw [← forall_argument_eq_ok_iff]
  constructor
  · rintro ⟨s, hs⟩
    obtain ⟨route', hroute', htexts, -⟩ := of_expand_eq_ok hs
    obtain rfl : route = route' := Value.str.inj (ht.symm.trans hroute')
    exact htexts
  · intro htexts
    rw [expand_eq ht, Route.fill_eq_ok htexts]
    exact ⟨_, rfl⟩

/-- **Expanding puts the texts in place of the placeholders.** -/
theorem expand_of_fills (ht : t.path = .str route) {text : String → String}
    (h : ∀ q ∈ (Route.slots (Route.pieces route.toList)).map String.ofList,
      values.Fills q (text q)) :
    t.expand (.dict values) = .ok (String.ofList ((Route.pieces route.toList).flatMap
      (Route.Piece.filled fun q => (text (String.ofList q)).toList))) := by
  have htext : ∀ q ∈ Route.slots (Route.pieces route.toList),
      argument (.dict values) q = .ok (text (String.ofList q)) := fun q hq =>
    argument_eq_ok_iff.2 (h _ (List.mem_map_of_mem hq))
  have hfill := Route.fill_eq_ok fun q hq => ⟨_, htext q hq⟩
  rw [expand_eq ht, hfill, Route.flatMap_filled_congr fun q hq => Route.textFrom_eq (htext q hq)]
  rfl

/-- **Expanding fails as the first placeholder without a text does.** -/
theorem expand_eq_error_iff (ht : t.path = .str route) {fault : Fault} :
    t.expand (.dict values) = .error fault ↔ ∃ before q after,
      (Route.slots (Route.pieces route.toList)).map String.ofList = before ++ q :: after
        ∧ (∀ b ∈ before, ∃ w, values.Fills b w) ∧ values.Lacks q fault := by
  have hfill : t.expand (.dict values) = .error fault ↔
      Route.fill (argument (.dict values)) (Route.pieces route.toList) = .error fault := by
    rw [expand_eq ht]
    rcases Route.fill (argument (.dict values)) (Route.pieces route.toList) with fault' | filled
    · exact ⟨fun h => congrArg _ (Except.error.inj h), fun h => congrArg _ (Except.error.inj h)⟩
    · exact ⟨nofun, nofun⟩
  rw [hfill, Route.fill_eq_error_iff]
  constructor
  · rintro ⟨before, q, after, hslots, hbefore, hq⟩
    refine ⟨before.map String.ofList, String.ofList q, after.map String.ofList, ?_,
      forall_argument_eq_ok_iff.1 hbefore, argument_eq_error_iff.1 hq⟩
    rw [hslots, List.map_append, List.map_cons]
  · rintro ⟨before, q, after, hslots, hbefore, hq⟩
    obtain ⟨before, rest, hsplit, rfl, hrest⟩ := List.map_eq_append_iff.1 hslots
    obtain ⟨q, after, rfl, rfl, rfl⟩ := List.map_eq_cons_iff.1 hrest
    exact ⟨before, q, after, hsplit, forall_argument_eq_ok_iff.2 hbefore,
      argument_eq_error_iff.2 hq⟩

/-- **Placeholders put in their own places** give the path back. -/
theorem expand_self (ht : t.path = .str route)
    (h : ∀ q ∈ (Route.slots (Route.pieces route.toList)).map String.ofList,
      values.field? q = some (.str (":" ++ q))) : t.expand (.dict values) = .ok route := by
  have hfills : ∀ q ∈ (Route.slots (Route.pieces route.toList)).map String.ofList,
      values.Fills q (":" ++ q) := fun q hq => ⟨_, h q hq, nofun, rfl⟩
  have hown : (fun q : List Char => (":" ++ String.ofList q).toList) = (':' :: ·) := by
    funext q
    simp
  rw [expand_of_fills ht hfills, hown, funext Route.Piece.filled_colon_cons,
    Route.flatMap_source_pieces, String.ofList_toList]

end Expand

/-- **Expanding is exact substitution, all at once.**  A path falls in just one way into literals
and placeholders, each of these a colon and a run of word characters that cannot be longer, with no
such colon left in a literal; the placeholders of a template are these, in their order.  Expanding
succeeds exactly when there is a text under the name of each of them, and then puts these texts in
place of the placeholders, literals and inserted texts standing as they are.  It fails as the first
placeholder without a text does.  Nothing counts but what is under their names, where `false`, 0 and
the empty text are values like others, and putting every placeholder in its own place gives the path
back. -/
theorem expand_is_substitution (method : Value) (path : String) :
    let t : Template := ⟨method, .str path⟩
    ∃ ps qs, (∀ cut, Route.Decomposes path.toList cut ↔ cut = ps)
      ∧ qs = (Route.slots ps).map String.ofList ∧ t.placeholders = .ok qs
      ∧ ∀ values : Dict,
        ((∃ s, t.expand (.dict values) = .ok s) ↔ ∀ q ∈ qs, ∃ w, values.Fills q w)
        ∧ (∀ text : String → String, (∀ q ∈ qs, values.Fills q (text q)) →
          t.expand (.dict values) = .ok (String.ofList
            (ps.flatMap (Route.Piece.filled fun q => (text (String.ofList q)).toList))))
        ∧ (∀ fault, t.expand (.dict values) = .error fault ↔
          ∃ before q after, qs = before ++ q :: after ∧ (∀ b ∈ before, ∃ w, values.Fills b w)
            ∧ values.Lacks q fault)
        ∧ (∀ values' : Dict, (∀ q ∈ qs, values.field? q = values'.field? q) →
          t.expand (.dict values) = t.expand (.dict values'))
        ∧ (∀ q ∈ qs, ∀ v ∈ [Value.bool false, .int 0, .str ""], values.field? q = some v →
          ∃ w, values.Fills q w)
        ∧ ((∀ q ∈ qs, values.field? q = some (.str (":" ++ q))) →
          t.expand (.dict values) = .ok path) := by
  intro t
  have hqs : t.placeholders =
      .ok ((Route.slots (Route.pieces path.toList)).map String.ofList) := placeholders_eq rfl
  refine ⟨_, _, fun cut => Route.decomposes_iff.trans eq_comm, rfl, hqs, fun values =>
    ⟨exists_expand_eq_ok_iff rfl, fun text => expand_of_fills rfl, fun fault =>
      expand_eq_error_iff rfl, fun values' => expand_congr hqs, fun q hq v hv hfield => ?_,
      expand_self rfl⟩⟩
  simp only [List.mem_cons, List.not_mem_nil, or_false] at hv
  rcases hv with rfl | rfl | rfl
  · exact ⟨_, _, hfield, nofun, rfl⟩
  · exact ⟨_, _, hfield, nofun, rfl⟩
  · exact ⟨_, _, hfield, nofun, rfl⟩

/-- A text that looks like a placeholder is not filled again. -/
example : (get "/:a-:b").expand (.dict [(.str "a", .str ":b"), (.str "b", .int 0)])
    = .ok "/:b-0" := rfl

end Template

end BrowserRemote
