import BrowserRemote.Proofs.Dialect.Tables
import BrowserRemote.Proofs.Request.Encoding

/-!
# Proofs/Request/Unambiguous — a request tells what it was made from

    name, parameters, session ──encode──▸ method, path ──▸ template, texts in its path

As long as no text in a path holds a slash, the method and the path of a request determine the
template and the text of each placeholder.  The templates of a dialect cannot meet: each two differ
in the method or in a segment that both have fixed (`Dialect.templates_outlined`).
-/

namespace BrowserRemote

namespace Encoder

variable {e : Encoder} {files : FileTree} {name parameters session : Value}

/-- The text that stands for a placeholder in the path of a request. -/
def substituted (e : Encoder) (files : FileTree) (name parameters session : Value) (q : String) :
    Except Fault String := do
  let (_, adapted) ← (e.plan files name parameters).outcome
  Template.argument (.dict (pathValues adapted session)) q.toList

/-- No text that stands for a placeholder holds a slash. -/
def SlashFree (e : Encoder) (files : FileTree) (name parameters session : Value) : Prop :=
  ∀ t qs, e.table.resolve name = .ok t → t.placeholders = .ok qs → ∀ q ∈ qs, ∀ s,
    e.substituted files name parameters session q = .ok s → '/' ∉ s.toList

/-- Texts without a slash, one for each placeholder. -/
theorem slashFree_of_texts {t : Template} {qs : List String} (ht : e.table.resolve name = .ok t)
    (hqs : t.placeholders = .ok qs) (htexts : ∀ q ∈ qs, ∃ s,
      e.substituted files name parameters session q = .ok s ∧ '/' ∉ s.toList) :
    e.SlashFree files name parameters session := by
  intro t' qs' ht' hqs' q hq s hs
  obtain rfl : t = t' := Except.ok.inj (ht.symm.trans ht')
  obtain rfl : qs = qs' := Except.ok.inj (hqs.symm.trans hqs')
  obtain ⟨s', hs', hslash⟩ := htexts q hq
  obtain rfl : s' = s := Except.ok.inj (hs'.symm.trans hs)
  exact hslash

/-- **A request is its template filled** with the texts that stand for the placeholders. -/
theorem filledBy_of_encode {r : Request}
    (h : (e.encode files name parameters session).outcome = .ok r)
    (hslash : e.SlashFree files name parameters session) :
    ∃ t text, e.table.resolve name = .ok t ∧ r.method = t.method ∧ t.FilledBy text r.path.toList
      ∧ ∀ qs, t.placeholders = .ok qs → ∀ q ∈ qs,
          e.substituted files name parameters session q = .ok (String.ofList (text q.toList)) := by
  obtain ⟨t, m, path, hplan, hpath, rfl⟩ := encode_eq_ok h
  obtain ⟨htemplate, -⟩ := plan_eq_ok hplan
  obtain ⟨route, hroute, htexts, hfilled⟩ := Template.of_expand_eq_ok hpath
  have hsubstituted : ∀ q ∈ Route.slots (Route.pieces route.toList), ∃ s,
      Route.textFrom (Template.argument (.dict (pathValues m session))) q = s.toList
        ∧ e.substituted files name parameters session (String.ofList q) = .ok s := by
    intro q hq
    obtain ⟨s, hs⟩ := htexts q hq
    refine ⟨s, Route.textFrom_eq hs, ?_⟩
    rw [substituted, hplan, ← hs]
    exact congrArg (Template.argument (.dict (pathValues m session))) String.toList_ofList
  have hplaceholders := Template.placeholders_eq hroute
  refine ⟨t, _, htemplate, rfl, ⟨route, hroute, fun q hq => ?_, hfilled⟩,
    fun qs hqs name hname => ?_⟩
  · obtain ⟨s, htext, hs⟩ := hsubstituted q hq
    rw [htext]
    exact hslash t _ htemplate hplaceholders _ (List.mem_map_of_mem hq) s hs
  · obtain rfl := Except.ok.inj (hplaceholders.symm.trans hqs)
    obtain ⟨q, hq, rfl⟩ := List.mem_map.1 hname
    obtain ⟨s, htext, hs⟩ := hsubstituted q hq
    rw [hs, String.toList_ofList, htext, String.ofList_toList]

end Encoder

namespace Dialect

/-- **Requests of a dialect are unambiguous**: where no text in the paths holds a slash, the same
method and the same path mean the same template, with the same text for each placeholder. -/
theorem request_determines_template {d : Dialect} {atoms : Option Repository} {e : Encoder}
    (he : (d.encoder atoms).outcome = .ok e) {files files' : FileTree}
    {name name' parameters parameters' session session' : Value} {r r' : Request}
    (h : (e.encode files name parameters session).outcome = .ok r)
    (h' : (e.encode files' name' parameters' session').outcome = .ok r')
    (hslash : e.SlashFree files name parameters session)
    (hslash' : e.SlashFree files' name' parameters' session')
    (hmethod : r.method = r'.method) (hpath : r.path = r'.path) :
    ∃ t qs, e.table.resolve name = .ok t ∧ e.table.resolve name' = .ok t
      ∧ t.placeholders = .ok qs ∧ ∀ q ∈ qs, ∃ s,
        e.substituted files name parameters session q = .ok s
          ∧ e.substituted files' name' parameters' session' q = .ok s := by
  obtain ⟨t, text, ht, hm, hfilled, htexts⟩ := Encoder.filledBy_of_encode h hslash
  obtain ⟨t', text', ht', hm', hfilled', htexts'⟩ := Encoder.filledBy_of_encode h' hslash'
  obtain rfl := eq_of_encoder he
  obtain ⟨c, -, hc⟩ := CommandTable.resolve_eq_ok_iff.1 ht
  obtain ⟨c', -, hc'⟩ := CommandTable.resolve_eq_ok_iff.1 ht'
  obtain ⟨own, hmem⟩ := CommandTable.mem_of_template? hc
  obtain ⟨own', hmem'⟩ := CommandTable.mem_of_template? hc'
  rw [← hpath] at hfilled'
  -- both requests fill one path with one method, so their templates meet
  obtain rfl : t = t' := eq_of_meets hmem hmem'
    ⟨text, text', _, hfilled, hfilled', hm.symm.trans (hmethod.trans hm')⟩
  have hqs := placeholders_eq hc
  refine ⟨t, _, ht, ht', hqs, fun q hq => ⟨_, htexts _ hqs q hq, ?_⟩⟩
  have hplain : t.isPlain = true := d.templates_outlined.1 _ hmem
  rw [Template.text_eq_of_isPlain hplain hfilled hfilled' hqs hq]
  exact htexts' _ hqs q hq

/-- The rectangle and the location of an element are asked for by one request, which does not tell
a number from its text. -/
theorem rect_request_determines_template :
    ∃ t qs, (commandTable .w3c).resolve (.command .getElementRect) = .ok t
      ∧ (commandTable .w3c).resolve (.str "getElementLocation") = .ok t
      ∧ t.placeholders = .ok qs ∧ ∀ q ∈ qs, ∃ s,
        Encoder.substituted ⟨commandTable .w3c, rules .w3c, atoms .w3c none⟩ .empty
            (.command .getElementRect) (.dict [(.str "id", .int 5)]) (.str "s") q = .ok s
          ∧ Encoder.substituted ⟨commandTable .w3c, rules .w3c, atoms .w3c none⟩ .empty
            (.str "getElementLocation") (.dict [(.str "id", .str "5")]) (.str "s") q = .ok s := by
  have hrect : (Encoder.encode ⟨commandTable .w3c, rules .w3c, atoms .w3c none⟩ .empty
      (.command .getElementRect) (.dict [(.str "id", .int 5)]) (.str "s")).outcome
        = .ok ⟨.str "GET", "/session/s/element/5/rect", [(.str "id", .int 5)]⟩ := rfl
  have hlocation : (Encoder.encode ⟨commandTable .w3c, rules .w3c, atoms .w3c none⟩ .empty
      (.str "getElementLocation") (.dict [(.str "id", .str "5")]) (.str "s")).outcome
        = .ok ⟨.str "GET", "/session/s/element/5/rect", [(.str "id", .str "5")]⟩ := rfl
  have hs : '/' ∉ "s".toList := by decide
  have h5 : '/' ∉ "5".toList := by decide
  exact request_determines_template (outcome_encoder .w3c none) hrect hlocation
    (Encoder.slashFree_of_texts rfl rfl (List.forall_mem_cons.2
      ⟨⟨"s", rfl, hs⟩, List.forall_mem_singleton.2 ⟨"5", rfl, h5⟩⟩))
    (Encoder.slashFree_of_texts rfl rfl (List.forall_mem_cons.2
      ⟨⟨"s", rfl, hs⟩, List.forall_mem_singleton.2 ⟨"5", rfl, h5⟩⟩)) rfl rfl

end Dialect

end BrowserRemote
