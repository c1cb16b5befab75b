import BrowserRemote.Proofs.Request.CommonCommands
import BrowserRemote.Proofs.Request.ScriptCalls
import BrowserRemote.Proofs.Route.Substitution

/-!
# Proofs/Request/SessionParameter — a session among the parameters

    session ────────────────────────────────────────────────▸ path
    session among the parameters ──── rule keeps it ────────▸ the same path
                                 ──── script in its place ──▸ no session, no path

The values of a path are the adapted parameters, so a session among them counts unless another one
is given.  Only the commands that the W3C dialect leaves to a script lose it
(`Dialect.keeps_session_iff`); for all others it fills the path as if it had been given apart
(`Encoder.field?_pathValues_own`).  A path that names a session names it first, so a session that is
missing is found missing before anything else (`Template.expand_of_first_missing`).
-/

namespace BrowserRemote

/-- **The first placeholder of a path is found missing before all others.** -/
theorem Template.expand_of_first_missing {t : Template} {values : Dict} {q : String}
    {qs : List String} (hqs : t.placeholders = .ok (q :: qs))
    (hq : values.field? q = none ∨ values.field? q = some .null) :
    t.expand (.dict values) = .error (.missingParameter q) := by
  obtain ⟨ps, hps, hslots⟩ := ok_of_bind hqs
  obtain ⟨name, after, hname, rfl, -⟩ := List.map_eq_cons_iff.1 (Except.ok.inj hslots)
  have hmissing : argument (.dict values) name = .error (.missingParameter (String.ofList name)) :=
    argument_eq_error_iff.2 (.missing hq)
  have hfirst : Route.slots ps = [] ++ name :: after := hname
  have hfill : Route.fill (argument (.dict values)) ps
      = .error (.missingParameter (String.ofList name)) :=
    Route.fill_eq_error hmissing hfirst fun b hb => absurd hb List.not_mem_nil
  rw [expand, hps]
  exact congrArg (fun filled => filled >>= fun cs => pure (String.ofList cs)) hfill

/-- The parameters of a script call name no session. -/
theorem Script.Call.field?_session (call : Script.Call) :
    Dict.field? call.parameters "sessionId" = none := rfl

namespace Encoder

variable {e : Encoder} {files : FileTree} {name parameters session session' : Value}
  {t : Template} {m : Dict}

/-- Without a session, a path is filled from the parameters alone. -/
theorem pathValues_null (m : Dict) : pathValues m .null = m := rfl

/-- **A session that is among the parameters fills the path as if it were given.** -/
theorem field?_pathValues_own (h : m.field? "sessionId" = some session) (q : String) :
    (pathValues m session).field? q = m.field? q := by
  unfold pathValues
  split
  · next s hs =>
    obtain ⟨rfl, -⟩ := Value.of_present?_eq_some hs
    rw [Dict.field?_setField]
    split
    · next hq => rw [hq, h]
    · rfl
  · rfl

/-- Sessions that fill the path of a plan alike lead to the same request, with the same records. -/
theorem encode_of_expand_eq (hplan : (e.plan files name parameters).outcome = .ok (t, m))
    (h : t.expand (.dict (pathValues m session)) = t.expand (.dict (pathValues m session'))) :
    e.encode files name parameters session = e.encode files name parameters session' := by
  rw [encode, encode, Traced.bind_ok hplan, Traced.bind_ok hplan]
  simp only [h]

end Encoder

namespace Dialect

/-- A path that names a session names it first. -/
theorem placeholders_of_session {d : Dialect} {c : Command} (h : "sessionId" ∈ d.placeholders c) :
    d.placeholders c = "sessionId" :: d.ownPlaceholders c := by
  unfold placeholders at h ⊢
  split at h
  · exact absurd h List.not_mem_nil
  · next hc => exact if_neg hc

/-- **Only a script takes a session from among the parameters**: all other rules keep it. -/
theorem keeps_session_iff (d : Dialect) : ∀ c,
    Adaptation.keeps (d.rules.lookup c) "sessionId" = true ↔ ¬ (d = .w3c ∧ c ∈ scriptCommands) := by
  cases d with
  | w3c => decide
  | jsonWire => decide

variable {d : Dialect} {given : Option Repository} {e : Encoder} {files : FileTree} {name : Value}
  {c : Command} {p m : Dict}

/-- **A session among the parameters** counts as if it were given apart, but for the commands that
the W3C dialect leaves to a script.  Let a command be supported whose path names a session, and let
its parameters be adapted.  If the command is left to a script, then without a session given apart
the session is missing, whatever the parameters say.  Any other command gives the same request
without a session as with the one among its parameters, or fails alike; and if there is none among
them, or it is null, the session is missing, whatever else may be. -/
theorem session_among_parameters (he : (d.encoder given).outcome = .ok e)
    (hname : name.designated? = .ok (some c)) (hsupported : e.table.supports name = .ok true)
    (hm : (e.rules.adapt files e.atoms name (.dict p)).outcome = .ok m) :
    ∃ t qs, e.table.resolve name = .ok t ∧ t.placeholders = .ok qs ∧ ("sessionId" ∈ qs →
      let missing : Fault := .missingParameter "sessionId"
      missing.message = "no value for path parameter: sessionId"
      ∧ (d = .w3c ∧ c ∈ scriptCommands →
        (e.encode files name (.dict p) .null).outcome = .error missing)
      ∧ (¬ (d = .w3c ∧ c ∈ scriptCommands) →
        (∀ session, p.field? "sessionId" = some session →
          e.encode files name (.dict p) .null = e.encode files name (.dict p) session)
        ∧ (p.field? "sessionId" = none ∨ p.field? "sessionId" = some .null →
          (e.encode files name (.dict p) .null).outcome = .error missing))) := by
  have htable : e.table = d.commandTable := congrArg Encoder.table (eq_of_encoder he)
  have hrules : e.rules = d.rules := congrArg Encoder.rules (eq_of_encoder he)
  obtain ⟨t, ht⟩ := resolve_of_supports he hsupported
  have htemplate := CommandTable.template?_of_resolve hname (htable ▸ ht)
  refine ⟨t, _, ht, placeholders_eq htemplate, fun hsession => ?_⟩
  have hqs : t.placeholders = .ok ("sessionId" :: d.ownPlaceholders c) := by
    rw [placeholders_eq htemplate, placeholders_of_session hsession]
  have hgiven : (e.rules.adapt files e.atoms name (Encoder.given (.dict p))).outcome = .ok m := hm
  have hmissing : m.field? "sessionId" = none ∨ m.field? "sessionId" = some .null →
      (e.encode files name (.dict p) .null).outcome = .error (.missingParameter "sessionId") := by
    intro h
    rw [Encoder.outcome_encode_eq ht hgiven, Encoder.pathValues_null,
      Template.expand_of_first_missing hqs h]
    rfl
  refine ⟨rfl, ?_, fun hplain => ?_⟩
  · rintro ⟨rfl, hscript⟩
    obtain ⟨a, ha, hcall⟩ := exists_script_rule hscript
    rw [hrules, Rules.outcome_adapt hname, ha] at hm
    obtain ⟨call, rfl⟩ := Adaptation.exists_call_of_apply hcall hm
    exact hmissing (Or.inl call.field?_session)
  · have hkept : m.field? "sessionId" = p.field? "sessionId" := by
      have hkeeps := (d.keeps_session_iff c).2 hplain
      rw [Rules.field?_of_adapt hname hm (hrules ▸ hkeeps), Dict.given?_of_ne (by decide)]
    refine ⟨fun session hown => ?_, fun h => hmissing (hkept ▸ h)⟩
    refine Encoder.encode_of_expand_eq (Encoder.outcome_plan_eq ht hgiven) ?_
    refine Template.expand_congr hqs fun q _ => ?_
    rw [Encoder.pathValues_null, Encoder.field?_pathValues_own (hkept.trans hown)]

/-- The command that moves the window loses a session among its parameters to the script of the W3C
dialect, and is sent to that session in the JSON wire dialect. -/
theorem moved_window_and_its_session :
    let e : Encoder := ⟨commandTable .w3c, rules .w3c, atoms .w3c none⟩
    let e' : Encoder := ⟨commandTable .jsonWire, rules .jsonWire, atoms .jsonWire none⟩
    let p : Dict := [(.str "x", .int 3), (.str "sessionId", .str "s")]
    let m : Dict := [(.str "x", .int 3), (.str "sessionId", .str "s"),
      (.str "windowHandle", .str "current")]
    (e.encode .empty (.str "setWindowPosition") (.dict p) .null).outcome
        = .error (.missingParameter "sessionId")
      ∧ e'.encode .empty (.str "setWindowPosition") (.dict p) .null
        = e'.encode .empty (.str "setWindowPosition") (.dict p) (.str "s")
      ∧ (e'.encode .empty (.str "setWindowPosition") (.dict p) .null).outcome
        = .ok ⟨.str "POST", "/session/s/window/current/position", m⟩ := by
  intro e e' p m
  have hname : (Value.str "setWindowPosition").designated?
      = .ok (some .setCurrentWindowPosition) := rfl
  have hm : (e.rules.adapt .empty e.atoms (.str "setWindowPosition") (.dict p)).outcome
      = .ok [(.str "script", .str Adaptation.moveWindowScript),
        (.str "args", .list [.int 3, .null])] := rfl
  have hm' : (e'.rules.adapt .empty e'.atoms (.str "setWindowPosition") (.dict p)).outcome
      = .ok m := rfl
  obtain ⟨t, qs, ht, hqs, h⟩ := session_among_parameters (outcome_encoder .w3c none) hname rfl hm
  obtain ⟨t', qs', ht', hqs', h'⟩ :=
    session_among_parameters (outcome_encoder .jsonWire none) hname rfl hm'
  obtain rfl : scriptTemplate = t := Except.ok.inj ht
  obtain rfl : ["sessionId"] = qs := Except.ok.inj hqs
  obtain rfl : .post "/session/:sessionId/window/:windowHandle/position" = t' := Except.ok.inj ht'
  obtain rfl : ["sessionId", "windowHandle"] = qs' := Except.ok.inj hqs'
  obtain ⟨-, hscript, -⟩ := h (by decide)
  obtain ⟨-, -, hplain⟩ := h' (by decide)
  obtain ⟨hown, -⟩ := hplain (by decide)
  exact ⟨hscript (by decide), hown (.str "s") rfl, rfl⟩

end Dialect

end BrowserRemote
