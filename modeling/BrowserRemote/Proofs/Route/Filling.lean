import BrowserRemote.Route.Template

/-!
# Proofs/Route/Filling — a filled path, piece by piece

If all placeholders have a text, the filled path is its pieces one behind the other, each
placeholder replaced by its text (`fill_eq_ok`), and nothing else fills a path (`of_fill_eq_ok`).
Otherwise filling stops at the first placeholder that has none (`of_fill_eq_error`).  Either way
only the texts of the placeholders matter (`fill_congr`).  `Template.expand` is this filling, on the
values of a dictionary.
-/

namespace BrowserRemote

namespace Route

/-- What stands in a filled path in place of a piece. -/
def Piece.filled (text : List Char → List Char) : Piece → List Char
  | .literal cs => cs
  | .slot name => text name

/-- The text of a placeholder, by an assignment that may fail; nothing where it does. -/
def textFrom (value : List Char → Except Fault String) (name : List Char) : List Char :=
  match value name with
  | .ok s => s.toList
  | .error _ => []

theorem textFrom_eq {value : List Char → Except Fault String} {name : List Char} {s : String}
    (h : value name = .ok s) : textFrom value name = s.toList := by
  rw [textFrom, h]

/-- **A path whose placeholders all have a text is filled with them.** -/
theorem fill_eq_ok {value : List Char → Except Fault String} : ∀ {ps : List Piece},
    (∀ q ∈ slots ps, ∃ s, value q = .ok s) →
      fill value ps = .ok (ps.flatMap (Piece.filled (textFrom value)))
  | [], _ => rfl
  | .literal cs :: ps, h => by
    have ih : fill value ps = .ok (ps.flatMap (Piece.filled (textFrom value))) := fill_eq_ok h
    rw [fill, ih]
    rfl
  | .slot name :: ps, h => by
    obtain ⟨s, hs⟩ := h name List.mem_cons_self
    have ih : fill value ps = .ok (ps.flatMap (Piece.filled (textFrom value))) :=
      fill_eq_ok fun q hq => h q (List.mem_cons_of_mem name hq)
    rw [fill, hs, ih, List.flatMap_cons, Piece.filled, textFrom_eq hs]
    rfl

/-- A path that is filled has a text for every placeholder. -/
theorem texts_of_fill_eq_ok {value : List Char → Except Fault String} : ∀ {ps : List Piece}
    {cs : List Char}, fill value ps = .ok cs → ∀ q ∈ slots ps, ∃ s, value q = .ok s
  | [], _, _, q, hq => absurd hq List.not_mem_nil
  | .literal ds :: ps, cs, h, q, hq => by
    obtain ⟨rest, hrest, -⟩ := ok_of_bind h
    exact texts_of_fill_eq_ok hrest q hq
  | .slot name :: ps, cs, h, q, hq => by
    obtain ⟨s, hs, h⟩ := ok_of_bind h
    obtain ⟨rest, hrest, -⟩ := ok_of_bind h
    rcases List.mem_cons.1 hq with rfl | hq
    · exact ⟨s, hs⟩
    · exact texts_of_fill_eq_ok hrest q hq

/-- **Nothing else fills a path**: all its placeholders have texts, and it is made of them. -/
theorem of_fill_eq_ok {value : List Char → Except Fault String} {ps : List Piece}
    {cs : List Char} (h : fill value ps = .ok cs) :
    (∀ q ∈ slots ps, ∃ s, value q = .ok s) ∧ cs = ps.flatMap (Piece.filled (textFrom value)) :=
  have htexts := texts_of_fill_eq_ok h
  ⟨htexts, Except.ok.inj (h.symm.trans (fill_eq_ok htexts))⟩

/-- **A path that is not filled has a placeholder to blame**: the first one without a text. -/
theorem of_fill_eq_error {value : List Char → Except Fault String} {fault : Fault} :
    ∀ {ps : List Piece}, fill value ps = .error fault →
      ∃ before q after, slots ps = before ++ q :: after ∧ (∀ b ∈ before, ∃ s, value b = .ok s)
        ∧ value q = .error fault
  | .literal cs :: ps, h => by
    rcases error_of_bind h with hrest | ⟨rest, -, h⟩
    · exact @of_fill_eq_error value fault ps hrest
    · exact absurd h nofun
  | .slot name :: ps, h => by
    rcases error_of_bind h with hname | ⟨s, hname, h⟩
    · exact ⟨[], name, slots ps, rfl, fun b hb => absurd hb List.not_mem_nil, hname⟩
    · rcases error_of_bind h with hrest | ⟨rest, -, h⟩
      · obtain ⟨before, q, after, hslots, hbefore, hq⟩ := of_fill_eq_error hrest
        refine ⟨name :: before, q, after, congrArg (name :: ·) hslots, fun b hb => ?_, hq⟩
        rcases List.mem_cons.1 hb with rfl | hb
        · exact ⟨s, hname⟩
        · exact hbefore b hb
      · exact absurd h nofun

/-- Only the placeholders of a path matter to how it is filled. -/
theorem fill_congr {value value' : List Char → Except Fault String} : ∀ {ps : List Piece},
    (∀ q ∈ slots ps, value q = value' q) → fill value ps = fill value' ps
  | [], _ => rfl
  | .literal cs :: ps, h => by
    have ih : fill value ps = fill value' ps := fill_congr h
    rw [fill, fill, ih]
  | .slot name :: ps, h => by
    have ih : fill value ps = fill value' ps :=
      fill_congr fun q hq => h q (List.mem_cons_of_mem name hq)
    rw [fill, fill, h name List.mem_cons_self, ih]

end Route

namespace Template

/-- A placeholder is looked up by its name. -/
theorem argument_dict (values : Dict) (q : String) :
    argument (.dict values) q.toList = match values.field? q with
      | none | some .null => .error (.missingParameter q)
      | some v => v.text := by
  rw [argument, String.ofList_toList]
  rfl

/-- A placeholder is filled with the text of the value under its name. -/
theorem argument_of_some {values : Dict} {q : String} {v : Value} (h : values.field? q = some v)
    (hv : v ≠ .null) : argument (.dict values) q.toList = v.text := by
  rw [argument_dict, h]
  split
  · next hnone => exact absurd hnone nofun
  · next hnull => exact absurd (Option.some.inj hnull) hv
  · next hsome => rw [Option.some.inj hsome]

/-- A placeholder without a value, or with `null`, is missing. -/
theorem argument_of_missing {values : Dict} {q : String}
    (h : values.field? q = none ∨ values.field? q = some .null) :
    argument (.dict values) q.toList = .error (.missingParameter q) := by
  rw [argument_dict]
  rcases h with h | h <;> rw [h]

/-- Only a path that is a text expands. -/
theorem exists_route_of_expand {t : Template} {values : Value} {path : String}
    (h : t.expand values = .ok path) : ∃ route, t.path = .str route := by
  obtain ⟨ps, hps, -⟩ := ok_of_bind h
  obtain ⟨route, hroute, -⟩ := ok_of_bind hps
  unfold read at hroute
  split at hroute
  · next s hs => exact ⟨s, hs⟩
  · exact absurd hroute nofun

/-- The placeholders of a template are those of its path. -/
theorem placeholders_eq {t : Template} {route : String} (ht : t.path = .str route) :
    t.placeholders = .ok ((Route.slots (Route.pieces route.toList)).map String.ofList) := by
  obtain ⟨method, p⟩ := t
  obtain rfl : p = .str route := ht
  rfl

/-- Expanding fills the pieces of the path. -/
theorem expand_eq {t : Template} {route : String} (ht : t.path = .str route) (values : Value) :
    t.expand values
      = String.ofList <$> Route.fill (argument values) (Route.pieces route.toList) := by
  obtain ⟨method, p⟩ := t
  obtain rfl : p = .str route := ht
  exact (map_eq_pure_bind String.ofList (Route.fill (argument values) _)).symm

/-- **An expanded path is the path of the template, filled.** -/
theorem of_expand_eq_ok {t : Template} {values : Value} {path : String}
    (h : t.expand values = .ok path) :
    ∃ route, t.path = .str route
      ∧ (∀ q ∈ Route.slots (Route.pieces route.toList), ∃ s, argument values q = .ok s)
      ∧ path.toList = (Route.pieces route.toList).flatMap
          (Route.Piece.filled (Route.textFrom (argument values))) := by
  obtain ⟨route, hroute⟩ := exists_route_of_expand h
  rw [expand_eq hroute] at h
  rcases hfill : Route.fill (argument values) (Route.pieces route.toList) with fault | filled
  · rw [hfill] at h
    exact absurd h nofun
  · rw [hfill] at h
    obtain rfl : String.ofList filled = path := Except.ok.inj h
    obtain ⟨htexts, hfilled⟩ := Route.of_fill_eq_ok hfill
    exact ⟨route, hroute, htexts, String.toList_ofList.trans hfilled⟩

/-- **Values that agree on the placeholders of a template fill it alike.** -/
theorem expand_congr {t : Template} {qs : List String} (hqs : t.placeholders = .ok qs)
    {values values' : Dict} (h : ∀ q ∈ qs, values.field? q = values'.field? q) :
    t.expand (.dict values) = t.expand (.dict values') := by
  obtain ⟨ps, hps, hslots⟩ := ok_of_bind hqs
  obtain rfl : (Route.slots ps).map String.ofList = qs := Except.ok.inj hslots
  have hfill : Route.fill (argument (.dict values)) ps
      = Route.fill (argument (.dict values')) ps := by
    refine Route.fill_congr fun q hq => ?_
    have hq' := h (String.ofList q) (List.mem_map_of_mem hq)
    rw [argument, argument, Value.field?, Value.field?, hq']
  rw [expand, expand, hps]
  exact congrArg (fun filled => filled >>= fun cs => pure (String.ofList cs)) hfill

end Template

end BrowserRemote
