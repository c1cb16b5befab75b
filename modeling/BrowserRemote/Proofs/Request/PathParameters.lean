import BrowserRemote.Proofs.Adaptation.Framing
import BrowserRemote.Proofs.Dialect.Tables
import BrowserRemote.Proofs.Request.Encoding
import BrowserRemote.Proofs.Route.Decomposition

/-!
# Proofs/Request/PathParameters — paths are filled from the parameters as they were given

    parameters ──adapt──▸ adapted parameters ──▸ path
        └───────────────────────────────────────▸ the same path

A path is filled from the adapted parameters, but no rule of a dialect touches a parameter that the
path of its own command needs (`Dialect.keeps_ownPlaceholders`).  So each placeholder `Stands` for
what the caller gave: the session, a value of the parameters, or the window in front.
-/

namespace BrowserRemote

/-! ## What stands for a placeholder -/

/-- The parameters have a value for a placeholder, or it is the window and they do not name one. -/
def Dict.Supplies (p : Dict) (q : String) : Prop :=
  (∃ v, p.field? q = some v ∧ v ≠ .null) ∨ (q = "windowHandle" ∧ p.field? q = none)

/-- **What stands for a placeholder** when parameters and the text of a session are given. -/
inductive Dict.Stands (p : Dict) (s : String) (q : String) : Except Fault String → Prop
  /-- The session stands for itself, whatever the parameters say. -/
  | session (hq : q = "sessionId") : Stands p s q (.ok s)
  | value {v : Value} {w : String} (hq : q ≠ "sessionId") (given : p.field? q = some v)
      (present : v ≠ .null) (text : v.text = .ok w) : Stands p s q (.ok w)
  /-- A window that is not named is the one in front. -/
  | front (hq : q = "windowHandle") (absent : p.field? q = none) :
      Stands p s q (.ok Adaptation.currentWindow)
  | missing (hq : q ≠ "sessionId") (none : ¬ p.Supplies q) :
      Stands p s q (.error (.missingParameter q))

namespace Dict

variable {p : Dict} {s q w : String}

/-- A text for each placeholder: the session, the value given for it, or the window in front. -/
structure Texts (p : Dict) (s : String) (qs : List String) (text : String → String) : Prop where
  session : "sessionId" ∈ qs → text "sessionId" = s
  value : ∀ q ∈ qs, q ≠ "sessionId" → ∀ v, p.field? q = some v → v.text = .ok (text q)
  front : "windowHandle" ∈ qs → p.field? "windowHandle" = none → text "windowHandle" = "current"

/-- The first placeholder, the session apart, that the parameters do not supply. -/
def FirstMissing (p : Dict) (qs : List String) (q : String) : Prop :=
  q ≠ "sessionId" ∧ ¬ p.Supplies q ∧ ∃ before after, qs = before ++ q :: after
    ∧ ∀ b ∈ before, b ≠ "sessionId" → p.Supplies b

theorem Stands.supplies (h : p.Stands s q (.ok w)) (hq : q ≠ "sessionId") : p.Supplies q := by
  rcases h with hsession | ⟨-, given, present, -⟩ | ⟨hwindow, absent⟩
  · exact absurd hsession hq
  · exact Or.inl ⟨_, given, present⟩
  · exact Or.inr ⟨hwindow, absent⟩

theorem Stands.text_eq_session (h : p.Stands s "sessionId" (.ok w)) : w = s := by
  rcases h with - | ⟨hq, -, -, -⟩ | ⟨hq, -⟩
  · rfl
  · exact absurd rfl hq
  · exact absurd hq (by decide)

theorem Stands.text_eq_value (h : p.Stands s q (.ok w)) (hq : q ≠ "sessionId") {v : Value}
    (hv : p.field? q = some v) : v.text = .ok w := by
  rcases h with hsession | ⟨-, given, -, text⟩ | ⟨-, absent⟩
  · exact absurd hsession hq
  · obtain rfl := Option.some.inj (hv.symm.trans given)
    exact text
  · exact absurd (absent.symm.trans hv) nofun

theorem Stands.text_eq_current (h : p.Stands s "windowHandle" (.ok w))
    (hnone : p.field? "windowHandle" = none) : w = "current" := by
  rcases h with hq | ⟨-, given, -, -⟩ | -
  · exact absurd hq (by decide)
  · exact absurd (hnone.symm.trans given) nofun
  · rfl

theorem Stands.eq_missing {fault : Fault} (h : p.Stands s q (.error fault)) :
    q ≠ "sessionId" ∧ ¬ p.Supplies q ∧ fault = .missingParameter q := by
  rcases h with - | - | - | ⟨hq, none⟩
  exact ⟨hq, none, rfl⟩

/-- **Filling a path with what stands for its placeholders** gives a path made of their texts, or
the fault of the first one that is missing. -/
theorem fill_of_stands {value : List Char → Except Fault String} {ps : List Route.Piece}
    (h : ∀ q ∈ Route.slots ps, p.Stands s (String.ofList q) (value q)) :
    (∃ text : String → String, p.Texts s ((Route.slots ps).map String.ofList) text
      ∧ (∀ q ∈ (Route.slots ps).map String.ofList, q ≠ "sessionId" → p.Supplies q)
      ∧ Route.fill value ps = .ok (ps.flatMap
          (Route.Piece.filled fun q => (text (String.ofList q)).toList)))
    ∨ ∃ q, p.FirstMissing ((Route.slots ps).map String.ofList) q
      ∧ Route.fill value ps = .error (.missingParameter q) := by
  rcases hfill : Route.fill value ps with fault | filled
  · obtain ⟨before, q, after, hslots, hbefore, hq⟩ := Route.of_fill_eq_error hfill
    have hstands := h q (hslots ▸ List.mem_append_right before List.mem_cons_self)
    rw [hq] at hstands
    obtain ⟨hne, hnone, rfl⟩ := hstands.eq_missing
    refine Or.inr ⟨String.ofList q, ⟨hne, hnone, before.map String.ofList, after.map String.ofList,
      by rw [hslots, List.map_append, List.map_cons], fun b hb hb' => ?_⟩, rfl⟩
    obtain ⟨name, hname, rfl⟩ := List.mem_map.1 hb
    obtain ⟨w, hw⟩ := hbefore name hname
    have hstands := h name (hslots ▸ List.mem_append_left _ hname)
    rw [hw] at hstands
    exact hstands.supplies hb'
  · obtain ⟨htexts, rfl⟩ := Route.of_fill_eq_ok hfill
    have hstands : ∀ q ∈ (Route.slots ps).map String.ofList,
        p.Stands s q (.ok (String.ofList (Route.textFrom value q.toList))) := by
      intro q hq
      obtain ⟨name, hname, rfl⟩ := List.mem_map.1 hq
      obtain ⟨w, hw⟩ := htexts name hname
      rw [String.toList_ofList, Route.textFrom_eq hw, String.ofList_toList, ← hw]
      exact h name hname
    refine Or.inl ⟨fun q => String.ofList (Route.textFrom value q.toList),
      ⟨fun hq => (hstands _ hq).text_eq_session,
        fun q hq hne v hv => (hstands q hq).text_eq_value hne hv,
        fun hq hnone => (hstands _ hq).text_eq_current hnone⟩,
      fun q hq hne => (hstands q hq).supplies hne, ?_⟩
    simp only [String.toList_ofList]

end Dict

namespace Encoder

variable {p m : Dict} {session : Value} {s q : String}

/-- The session stands for its own placeholder. -/
theorem argument_session (m : Dict) (hsession : session ≠ .null) :
    Template.argument (.dict (pathValues m session)) "sessionId".toList = session.text := by
  have hvalues : pathValues m session = m.setField "sessionId" session := by
    rw [pathValues, Value.present?_of_ne_null hsession]
  rw [hvalues]
  exact Template.argument_of_some (by rw [Dict.field?_setField, if_pos rfl]) hsession

/-- The session stands for no other placeholder. -/
theorem field?_pathValues (m : Dict) (session : Value) (hq : q ≠ "sessionId") :
    (pathValues m session).field? q = m.field? q := by
  unfold pathValues
  split
  · rw [Dict.field?_setField, if_neg hq]
  · rfl

/-- **A placeholder that the adaptation kept stands for what was given.** -/
theorem stands_argument (hsession : session ≠ .null) (hs : session.text = .ok s)
    (hkept : q ≠ "sessionId" → m.field? q = p.given? q)
    (htext : q ≠ "sessionId" → ∀ v, p.field? q = some v → ∃ w, v.text = .ok w) :
    p.Stands s q (Template.argument (.dict (pathValues m session)) q.toList) := by
  by_cases hq : q = "sessionId"
  · subst hq
    rw [argument_session m hsession, hs]
    exact .session rfl
  have hfield : (pathValues m session).field? q = p.given? q :=
    (field?_pathValues m session hq).trans (hkept hq)
  rcases hgiven : p.field? q with _ | v
  · by_cases hwindow : q = "windowHandle"
    · have hfront : p.given? q = some (.str Adaptation.currentWindow) := by
        rw [Dict.given?, hgiven]
        exact if_pos hwindow
      have hcurrent : Value.str Adaptation.currentWindow ≠ .null := Value.noConfusion
      rw [Template.argument_of_some (hfield.trans hfront) hcurrent]
      exact .front hwindow hgiven
    · rw [Dict.given?_of_ne hwindow, hgiven] at hfield
      rw [Template.argument_of_missing (Or.inl hfield)]
      refine .missing hq ?_
      rintro (⟨v, hv, -⟩ | ⟨h, -⟩)
      · exact absurd (hgiven.symm.trans hv) (Option.some_ne_none v).symm
      · exact hwindow h
  · have hsome : p.given? q = some v := by rw [Dict.given?, hgiven]
    by_cases hv : v = .null
    · subst hv
      rw [Template.argument_of_missing (Or.inr (hfield.trans hsome))]
      refine .missing hq ?_
      rintro (⟨w, hw, hpresent⟩ | ⟨-, h⟩)
      · exact hpresent (Option.some.inj (hw.symm.trans hgiven))
      · exact absurd (hgiven.symm.trans h) (Option.some_ne_none _)
    · obtain ⟨w, hw⟩ := htext hq v hgiven
      rw [Template.argument_of_some (hfield.trans hsome) hv, hw]
      exact .value hq hgiven hv hw

end Encoder

namespace Dialect

/-- **No rule touches a parameter that the path of its own command needs.** -/
theorem keeps_ownPlaceholders (d : Dialect) : ∀ c, ∀ q ∈ d.ownPlaceholders c,
    Adaptation.keeps (d.rules.lookup c) q = true := by
  rcases d with _ | _ <;> decide

theorem mem_ownPlaceholders {d : Dialect} {c : Command} {q : String} (h : q ∈ d.placeholders c)
    (hq : q ≠ "sessionId") : q ∈ d.ownPlaceholders c := by
  unfold placeholders at h
  split at h
  · exact absurd h List.not_mem_nil
  · exact (List.mem_cons.1 h).resolve_left hq

variable {d : Dialect} {repository : Option Repository} {e : Encoder} {files : FileTree}
  {name session : Value} {p m : Dict} {s : String}

/-- A template of a dialect has a text for its path. -/
theorem exists_route {c : Command} {t : Template} (h : d.commandTable.template? c = some t) :
    ∃ route, t.path = .str route := by
  obtain ⟨own, hmem⟩ := CommandTable.mem_of_template? h
  obtain ⟨method, route, rfl, -⟩ := Template.solitary_of_isPlain (d.templates_outlined.1 _ hmem)
  exact ⟨route, rfl⟩

/-- A supported command whose parameters were adapted becomes a request whose path is filled from
the parameters as they were given, or the first placeholder they do not supply is at fault. -/
theorem encode_from_given (he : (d.encoder repository).outcome = .ok e)
    (hname : e.table.supports name = .ok true)
    (hm : (e.rules.adapt files e.atoms name (.dict p)).outcome = .ok m)
    (hsession : session ≠ .null) (hs : session.text = .ok s) :
    ∃ t route ps qs, e.table.resolve name = .ok t ∧ t.placeholders = .ok qs ∧ t.path = .str route
      ∧ Route.Decomposes route.toList ps ∧ (Route.slots ps).map String.ofList = qs
      ∧ ((∀ q ∈ qs, q ≠ "sessionId" → ∀ v, p.field? q = some v → ∃ w, v.text = .ok w) →
        (∃ text : String → String, p.Texts s qs text
          ∧ (∀ q ∈ qs, q ≠ "sessionId" → p.Supplies q)
          ∧ (e.encode files name (.dict p) session).outcome = .ok ⟨t.method, String.ofList
              (ps.flatMap (Route.Piece.filled fun q => (text (String.ofList q)).toList)), m⟩)
        ∨ ∃ q, p.FirstMissing qs q
          ∧ (e.encode files name (.dict p) session).outcome = .error (.missingParameter q)) := by
  have htable : e.table = d.commandTable := congrArg Encoder.table (eq_of_encoder he)
  have hrules : e.rules = d.rules := congrArg Encoder.rules (eq_of_encoder he)
  obtain ⟨t, ht⟩ := resolve_of_supports he hname
  obtain ⟨c, hc, htemplate⟩ := CommandTable.resolve_eq_ok_iff.1 (htable ▸ ht)
  obtain ⟨route, hroute⟩ := exists_route htemplate
  have hplaceholders := Template.placeholders_eq hroute
  have hqs : (Route.slots (Route.pieces route.toList)).map String.ofList = d.placeholders c :=
    Except.ok.inj (hplaceholders.symm.trans (placeholders_eq htemplate))
  refine ⟨t, route, _, _, ht, hplaceholders, hroute, Route.decomposes_iff.2 rfl, rfl,
    fun htext => ?_⟩
  have hstands : ∀ q ∈ Route.slots (Route.pieces route.toList), p.Stands s (String.ofList q)
      (Template.argument (.dict (Encoder.pathValues m session)) q) := by
    intro q hq
    have hmem := List.mem_map_of_mem (f := String.ofList) hq
    have hkept : String.ofList q ≠ "sessionId" →
        m.field? (String.ofList q) = p.given? (String.ofList q) := by
      intro hne
      have hkeeps := d.keeps_ownPlaceholders c _ (mem_ownPlaceholders (hqs ▸ hmem) hne)
      exact Rules.field?_of_adapt hc hm (hrules ▸ hkeeps)
    have h := Encoder.stands_argument hsession hs hkept (htext _ hmem)
    rwa [String.toList_ofList] at h
  have hgiven : (e.rules.adapt files e.atoms name (Encoder.given (.dict p))).outcome = .ok m := hm
  rw [Encoder.outcome_encode_eq ht hgiven, Template.expand_eq hroute]
  rcases Dict.fill_of_stands hstands with ⟨text, htexts, hsupplied, hfill⟩ | ⟨q, hmissing, hfill⟩
  · exact Or.inl ⟨text, htexts, hsupplied, by rw [hfill]; rfl⟩
  · exact Or.inr ⟨q, hmissing, by rw [hfill]; rfl⟩

/-- **Parameters that a path needs survive the adaptation.**  With a session, a supported command
whose parameters were adapted becomes a request exactly when the parameters, as they were given,
supply its placeholders; they and the session fill the path, and the adapted parameters go along.
Otherwise the first placeholder in the path that is not supplied is named. -/
theorem path_filled_from_given (he : (d.encoder repository).outcome = .ok e)
    (hname : e.table.supports name = .ok true)
    (hm : (e.rules.adapt files e.atoms name (.dict p)).outcome = .ok m)
    (hsession : session ≠ .null) (hs : session.text = .ok s) :
    ∃ t route ps qs, e.table.resolve name = .ok t ∧ t.placeholders = .ok qs ∧ t.path = .str route
      ∧ Route.Decomposes route.toList ps ∧ (Route.slots ps).map String.ofList = qs
      ∧ ((∀ q ∈ qs, q ≠ "sessionId" → ∀ v, p.field? q = some v → ∃ w, v.text = .ok w) →
        ((∃ r, (e.encode files name (.dict p) session).outcome = .ok r) ↔
          ∀ q ∈ qs, q ≠ "sessionId" → p.Supplies q)
        ∧ (∀ r, (e.encode files name (.dict p) session).outcome = .ok r →
          r.method = t.method ∧ r.parameters = m ∧ ∃ text : String → String, p.Texts s qs text
            ∧ r.path.toList = ps.flatMap
                (Route.Piece.filled fun q => (text (String.ofList q)).toList))
        ∧ ∀ fault, (e.encode files name (.dict p) session).outcome = .error fault →
          ∃ q, p.FirstMissing qs q ∧ fault = .missingParameter q
            ∧ fault.message = "no value for path parameter: " ++ q) := by
  obtain ⟨t, route, ps, qs, ht, hplaceholders, hroute, hps, hqs, hencode⟩ :=
    encode_from_given he hname hm hsession hs
  refine ⟨t, route, ps, qs, ht, hplaceholders, hroute, hps, hqs, fun htext => ?_⟩
  rcases hencode htext with ⟨text, htexts, hsupplied, h⟩ | ⟨q, hmissing, h⟩
  · rw [h]
    refine ⟨⟨fun _ => hsupplied, fun _ => ⟨_, rfl⟩⟩, ?_, nofun⟩
    rintro r ⟨⟩
    exact ⟨rfl, rfl, text, htexts, String.toList_ofList⟩
  · rw [h]
    refine ⟨⟨nofun, fun hsupplied => ?_⟩, nofun, ?_⟩
    · obtain ⟨hne, hnone, before, after, hsplit, -⟩ := hmissing
      exact absurd
        (hsupplied q (hsplit ▸ List.mem_append_right before List.mem_cons_self) hne) hnone
    · rintro fault ⟨⟩
      exact ⟨q, hmissing, rfl, rfl⟩

/-- A window that is not named is the one in front, and a session among the parameters is none. -/
theorem window_size_filled_from_given :
    ∃ r, (Encoder.encode ⟨commandTable .jsonWire, rules .jsonWire, atoms .jsonWire none⟩ .empty
        (.str "getWindowSize") (.dict [(.str "sessionId", .str "other")]) (.str "s")).outcome
          = .ok r
      ∧ r.parameters
        = [(.str "sessionId", .str "other"), (.str "windowHandle", .str "current")] := by
  have hname : (commandTable .jsonWire).supports (.str "getWindowSize") = .ok true := rfl
  have hm : ((rules .jsonWire).adapt .empty (atoms .jsonWire none) (.str "getWindowSize")
      (.dict [(.str "sessionId", .str "other")])).outcome
        = .ok [(.str "sessionId", .str "other"), (.str "windowHandle", .str "current")] := rfl
  have hsession : Value.str "s" ≠ .null := nofun
  obtain ⟨t, route, ps, qs, ht, hqs, -, -, -, h⟩ :=
    path_filled_from_given (outcome_encoder .jsonWire none) hname hm hsession rfl
  obtain rfl : .get "/session/:sessionId/window/:windowHandle/size" = t := Except.ok.inj ht
  obtain rfl : ["sessionId", "windowHandle"] = qs := Except.ok.inj hqs
  have hwindow : ∀ q ∈ ["sessionId", "windowHandle"], q ≠ "sessionId" → q = "windowHandle" := by
    decide
  have habsent : Dict.field? [(.str "sessionId", .str "other")] "windowHandle" = none := rfl
  obtain ⟨hencodes, hrequest, -⟩ := h fun q hq hne v hv => by
    obtain rfl := hwindow q hq hne
    exact absurd (habsent.symm.trans hv) nofun
  obtain ⟨r, hr⟩ := hencodes.2 fun q hq hne => by
    obtain rfl := hwindow q hq hne
    exact Or.inr ⟨rfl, habsent⟩
  obtain ⟨-, hparameters, -⟩ := hrequest r hr
  exact ⟨r, hr, hparameters⟩

end Dialect

end BrowserRemote
