import BrowserRemote.Proofs.Adaptation.Atoms
import BrowserRemote.Proofs.Adaptation.Framing
import BrowserRemote.Proofs.Dialect.Tables
import BrowserRemote.Proofs.Request.Encoding

/-!
# Proofs/Request/AtomUse — two commands ask for an atom, each for its own

    getElementAttribute ──W3C──▸ getAttribute.js
    isElementDisplayed  ──W3C──▸ isDisplayed.js

Atoms are asked for in adapting parameters and nowhere else, and what is asked for is fixed by the
command (`Rules.asked?`).  So a command is planned and encoded alike with all ways of finding atoms
that answer alike for its one atom (`Encoder.plan_agree`), and of all the faults of a request only
one speaks of atoms: that the atom asked for is not to be had (`Encoder.encode_failsOnly`).
-/

namespace BrowserRemote

open Fault (BlamesValue)

variable {log : Bool} {files files' : FileTree} {atoms atoms' : Option Repository} {name : Value}

/-- **The fault lies with a request**: there is none for the command, its path misses a parameter,
or a value is to blame. -/
def Fault.BlamesRequest : Fault → Prop
  | .unsupported _ | .missingParameter _ => True
  | fault => fault.BlamesValue

theorem Fault.blamesRequest_of_blamesValue {fault : Fault} (h : fault.BlamesValue) :
    fault.BlamesRequest := by
  unfold BlamesRequest
  split
  · trivial
  · trivial
  · exact h

open Fault (BlamesRequest blamesRequest_of_blamesValue)

/-- A value that is to blame makes a request fail. -/
theorem FailsOnly.ofValue {α : Type} {step : Except Fault α} (h : FailsOnly BlamesValue step) :
    FailsOnly BlamesRequest step :=
  h.mono fun _ => blamesRequest_of_blamesValue

/-! ## The template and its path -/

theorem CommandTable.resolve_failsOnly (t : CommandTable) (name : Value) :
    FailsOnly BlamesRequest (t.resolve name) := by
  have hunsupported : FailsOnly BlamesRequest (unsupported (α := Template) name) :=
    .bind name.label_failsOnly.ofValue fun _ => .error trivial
  refine .bind name.designated?_failsOnly.ofValue fun found => ?_
  split
  · exact hunsupported
  · split
    · exact .ok _
    · exact hunsupported

/-- Filling a path fails only as finding the text of a placeholder does. -/
theorem Route.fill_failsOnly {kind : Fault → Prop} {value : List Char → Except Fault String}
    (h : ∀ q, FailsOnly kind (value q)) (ps : List Piece) : FailsOnly kind (fill value ps) := by
  intro fault hfault
  obtain ⟨_, q, _, -, -, hq⟩ := of_fill_eq_error hfault
  exact h q fault hq

namespace Template

theorem pieces_failsOnly (t : Template) : FailsOnly BlamesRequest t.pieces := by
  refine .bind ?_ fun _ => .ok _
  unfold read
  split
  · exact .ok _
  · exact .error trivial

theorem argument_failsOnly (values : Value) (q : List Char) :
    FailsOnly BlamesRequest (argument values q) := by
  refine .bind (values.field?_failsOnly (String.ofList q)).ofValue fun found => ?_
  split
  · exact .error trivial
  · exact .error trivial
  · next v _ => exact v.text_failsOnly.ofValue

theorem expand_failsOnly (t : Template) (values : Value) :
    FailsOnly BlamesRequest (t.expand values) :=
  .bind t.pieces_failsOnly fun ps =>
    .bind (Route.fill_failsOnly (argument_failsOnly values) ps) fun _ => .ok _

end Template

/-! ## The parameters -/

namespace Rules

/-- **The atom that a name asks for** under given rules, if it asks for one. -/
def asked? (rules : Rules) (name : Value) : Option String :=
  match rules.adaptation? name with
  | .ok (some adaptation) => adaptation.atom?
  | _ => none

theorem asked?_of_adaptation? {rules : Rules} {a : Adaptation}
    (h : rules.adaptation? name = .ok (some a)) : rules.asked? name = a.atom? := by
  rw [asked?, h]

/-- What a name asks for is what the rule of its command asks for. -/
theorem asked?_eq_some_iff {rules : Rules} {atom : String} : rules.asked? name = some atom ↔
    ∃ c, name.designated? = .ok (some c) ∧ (rules.lookup c).bind Adaptation.atom? = some atom := by
  constructor
  · intro h
    unfold asked? at h
    split at h
    · next a hrule =>
      obtain ⟨found, hfound, hlookup⟩ := ok_of_bind hrule
      rcases found with _ | c
      · exact absurd hlookup nofun
      · have hlookup : rules.lookup c = some a := Except.ok.inj hlookup
        exact ⟨c, hfound, by rw [hlookup]; exact h⟩
    · exact absurd h nofun
  · rintro ⟨c, hc, h⟩
    rw [asked?, adaptation?_of_designated? hc]
    rcases hlookup : rules.lookup c with _ | a
    · rw [hlookup] at h
      exact absurd h nofun
    · rw [hlookup] at h
      exact h

/-- **Only the answer for the atom that is asked for matters.** -/
theorem adapt_agree {rules : Rules} (h : ∀ atom, rules.asked? name = some atom →
    Script.AnswerAlike log files files' atoms atoms' atom) (parameters : Value) :
    Traced.Agree log (rules.adapt files atoms name parameters)
      (rules.adapt files' atoms' name parameters) := by
  rcases hrule : rules.adaptation? name with fault | _ | a
  · rw [adapt_of_adaptation?_error hrule, adapt_of_adaptation?_error hrule]
    exact .refl _
  · rw [adapt_of_adaptation? hrule, adapt_of_adaptation? hrule, Option.elim_none, Option.elim_none]
    exact .refl _
  · rw [asked?_of_adaptation? hrule] at h
    rw [adapt_of_adaptation? hrule, adapt_of_adaptation? hrule]
    exact Adaptation.apply_agree h parameters

theorem adaptation?_failsOnly (rules : Rules) (name : Value) :
    FailsOnly BlamesValue (rules.adaptation? name) := by
  refine .bind name.designated?_failsOnly fun found => ?_
  split
  · exact .ok _
  · exact .ok _

/-- Adapting fails when a value is to blame or when the atom asked for is not to be had. -/
theorem adapt_failsOnly (rules : Rules) (name parameters : Value) : FailsOnly
    (fun fault => fault.BlamesValue ∨ Adaptation.LacksAtom files atoms (rules.asked? name) fault)
    (rules.adapt files atoms name parameters).outcome := by
  rcases hrule : rules.adaptation? name with fault | _ | a
  · rw [adapt_of_adaptation?_error hrule]
    exact .error (Or.inl (rules.adaptation?_failsOnly name fault hrule))
  · rw [adapt_of_adaptation? hrule]
    exact parameters.toDict_failsOnly.mono fun _ => Or.inl
  · rw [adapt_of_adaptation? hrule, asked?_of_adaptation? hrule]
    exact a.apply_failsOnly parameters

end Rules

/-! ## Plans and requests -/

namespace Encoder

variable {e e' : Encoder} {parameters : Value}

/-- **Encoders that differ in their ways of finding atoms** plan alike if these answer alike for the
atom that is asked for. -/
theorem plan_agree (htable : e.table = e'.table) (hrules : e.rules = e'.rules)
    (h : ∀ atom, e.rules.asked? name = some atom →
      Script.AnswerAlike log files files' e.atoms e'.atoms atom) (parameters : Value) :
    Traced.Agree log (e.plan files name parameters) (e'.plan files' name parameters) := by
  have hadapt := Rules.adapt_agree h (given parameters)
  rw [plan, plan, ← htable, ← hrules]
  exact .bind (.refl _) fun template => .bind hadapt fun adapted => .refl _

theorem plan_failsOnly (e : Encoder) (files : FileTree) (name parameters : Value) : FailsOnly
    (fun fault => fault.BlamesRequest
      ∨ Adaptation.LacksAtom files e.atoms (e.rules.asked? name) fault)
    (e.plan files name parameters).outcome := by
  rw [outcome_plan]
  refine .bind ((e.table.resolve_failsOnly name).mono fun _ => Or.inl) fun template => ?_
  refine .bind ((e.rules.adapt_failsOnly name (given parameters)).mono fun _ hfault =>
    hfault.imp_left blamesRequest_of_blamesValue) fun adapted => ?_
  exact .bind (name.label_failsOnly.ofValue.mono fun _ => Or.inl) fun _ => .ok _

/-- **A request fails** when it is itself to blame or when the atom asked for is not to be had. -/
theorem encode_failsOnly (e : Encoder) (files : FileTree) (name parameters session : Value) :
    FailsOnly (fun fault => fault.BlamesRequest
        ∨ Adaptation.LacksAtom files e.atoms (e.rules.asked? name) fault)
      (e.encode files name parameters session).outcome := by
  rw [outcome_encode]
  refine .bind (e.plan_failsOnly files name parameters) fun plan => ?_
  exact .bind ((plan.1.expand_failsOnly _).mono fun _ => Or.inl) fun _ => .ok _

end Encoder

namespace Dialect

/-- **The commands that ask for an atom** in the W3C dialect, each with its atom. -/
def atomCommands : List (Command × String) :=
  [(.getElementAttribute, "getAttribute.js"), (.isElementDisplayed, "isDisplayed.js")]

/-- The atoms behind the rules of the two dialects. -/
theorem atom?_of_rule : ∀ c : Command,
    ((rules .w3c).lookup c).bind Adaptation.atom? = atomCommands.lookup c
      ∧ ((rules .jsonWire).lookup c).bind Adaptation.atom? = none := by
  decide

/-- **Only these commands ask for atoms**, and only in the W3C dialect. -/
theorem asked?_eq_some_iff {d : Dialect} {atom : String} : d.rules.asked? name = some atom ↔
    d = .w3c ∧ ∃ c, name.designated? = .ok (some c) ∧ atomCommands.lookup c = some atom := by
  rw [Rules.asked?_eq_some_iff]
  constructor
  · rintro ⟨c, hc, hatom⟩
    obtain ⟨hw3c, hjson⟩ := atom?_of_rule c
    cases d with
    | w3c => exact ⟨rfl, c, hc, hw3c.symm.trans hatom⟩
    | jsonWire => exact absurd (hjson.symm.trans hatom) nofun
  · rintro ⟨rfl, c, hc, hatom⟩
    exact ⟨c, hc, (atom?_of_rule c).1.trans hatom⟩

/-- A name asks for the atom of its command and for no other one. -/
theorem eq_of_asked? {d : Dialect} {c : Command} {atom asked : String}
    (hc : name.designated? = .ok (some c)) (hatom : atomCommands.lookup c = some atom)
    (hasked : d.rules.asked? name = some asked) : asked = atom := by
  obtain ⟨-, c', hc', hasked⟩ := asked?_eq_some_iff.1 hasked
  obtain rfl : c = c' := Option.some.inj (Except.ok.inj (hc.symm.trans hc'))
  exact Option.some.inj (hasked.symm.trans hatom)

variable {d : Dialect} {given given' : Option Repository} {e e' : Encoder}

theorem rules_of_encoder (he : (d.encoder given).outcome = .ok e) : e.rules = d.rules := by
  rw [eq_of_encoder he]

/-- **Two ways of finding atoms** make no difference to a dialect but by their answers for the atom
that is asked for. -/
theorem agree_of_answers (he : (d.encoder given).outcome = .ok e)
    (he' : (d.encoder given').outcome = .ok e')
    (h : ∀ asked, d.rules.asked? name = some asked →
      Script.AnswerAlike log files files' e.atoms e'.atoms asked) (parameters session : Value) :
    Traced.Agree log (e.plan files name parameters) (e'.plan files' name parameters)
    ∧ Traced.Agree log (e.encode files name parameters session)
      (e'.encode files' name parameters session) := by
  have htable : e.table = e'.table := by rw [eq_of_encoder he, eq_of_encoder he']
  have hrules : e.rules = e'.rules := (rules_of_encoder he).trans (rules_of_encoder he').symm
  rw [← rules_of_encoder he] at h
  have hplan := Encoder.plan_agree htable hrules h parameters
  exact ⟨hplan, Encoder.encode_agree hplan session⟩

/-- **Only two commands depend on the way atoms are found, each on one atom.**  In the JSON wire
dialect, and in the W3C dialect for a name of any other command or of none, plans and requests are
the same, faults and records included, whatever ways of finding atoms the encoders have.  For the
name of one of the two commands the outcomes are the same if the answers for its atom have the same
outcome, and the records are the same too if the answers have the same records.  A script is
unavailable for a name of these two commands only, in the W3C dialect only, and only by the fault of
its atom. -/
theorem atoms_matter_to_two_commands (he : (d.encoder given).outcome = .ok e)
    (he' : (d.encoder given').outcome = .ok e') (files files' : FileTree)
    (name parameters session : Value) :
    (d = .jsonWire ∨ (∀ c, name.designated? = .ok (some c) → atomCommands.lookup c = none) →
      e.plan files name parameters = e'.plan files' name parameters
      ∧ e.encode files name parameters session = e'.encode files' name parameters session)
    ∧ (∀ c atom, name.designated? = .ok (some c) → atomCommands.lookup c = some atom →
        let answer := Script.sourceFrom files e.atoms (.str atom)
        let answer' := Script.sourceFrom files' e'.atoms (.str atom)
        (answer.outcome = answer'.outcome →
          (e.plan files name parameters).outcome = (e'.plan files' name parameters).outcome
          ∧ (e.encode files name parameters session).outcome
            = (e'.encode files' name parameters session).outcome)
        ∧ (answer = answer' →
          e.plan files name parameters = e'.plan files' name parameters
          ∧ e.encode files name parameters session = e'.encode files' name parameters session))
    ∧ ∀ fault asked label cause, fault = .scriptUnavailable asked label cause →
        (e.plan files name parameters).outcome = .error fault
          ∨ (e.encode files name parameters session).outcome = .error fault →
        d = .w3c ∧ ∃ c atom, name.designated? = .ok (some c) ∧ atomCommands.lookup c = some atom
          ∧ (Script.atomSource files e.atoms (.str atom)).outcome = .error fault := by
  have hsame (hasks : ∀ asked, d.rules.asked? name = some asked →
      Script.AnswerAlike true files files' e.atoms e'.atoms asked) :
      e.plan files name parameters = e'.plan files' name parameters
      ∧ e.encode files name parameters session = e'.encode files' name parameters session := by
    obtain ⟨hplan, hencode⟩ := agree_of_answers he he' hasks parameters session
    exact ⟨Traced.agree_true_iff.1 hplan, Traced.agree_true_iff.1 hencode⟩
  refine ⟨fun hnone => hsame fun asked hasked => ?_, fun c atom hc hatom =>
    ⟨fun hanswer => ?_, fun hanswer => hsame fun asked hasked => ?_⟩, ?_⟩
  · obtain ⟨rfl, c, hc, hatom⟩ := asked?_eq_some_iff.1 hasked
    rcases hnone with hjson | hplain
    · exact absurd hjson nofun
    · exact absurd ((hplain c hc).symm.trans hatom) nofun
  · have hasks (asked : String) (hasked : d.rules.asked? name = some asked) :
        Script.AnswerAlike false files files' e.atoms e'.atoms asked :=
      eq_of_asked? hc hatom hasked ▸ Traced.agree_false_iff.2 hanswer
    obtain ⟨hplan, hencode⟩ := agree_of_answers he he' hasks parameters session
    exact ⟨Traced.agree_false_iff.1 hplan, Traced.agree_false_iff.1 hencode⟩
  · exact eq_of_asked? hc hatom hasked ▸ Traced.agree_true_iff.2 hanswer
  · rintro fault asked label cause rfl hfault
    have hkind := hfault.elim (e.plan_failsOnly files name parameters _)
      (e.encode_failsOnly files name parameters session _)
    rcases hkind with hblame | ⟨atom, hatom, hsource⟩
    · exact absurd hblame id
    · rw [rules_of_encoder he] at hatom
      obtain ⟨hd, c, hc, hlookup⟩ := asked?_eq_some_iff.1 hatom
      exact ⟨hd, c, atom, hc, hlookup, hsource⟩

/-- Of two repositories without the atom for attributes, a title asks neither for anything, and an
attribute is refused by both for want of that atom. -/
theorem attribute_lacks_atom_and_title_does_not :
    let nothing : Repository := .mapping [] none
    let other : Repository := .mapping [(.str "isDisplayed.js", .str "f")] none
    let e : Encoder := ⟨commandTable .w3c, rules .w3c, some nothing⟩
    let e' : Encoder := ⟨commandTable .w3c, rules .w3c, some other⟩
    let p : Value := .dict [(.str "id", .str "e1"), (.str "name", .str "class")]
    let fault : Fault := .scriptUnavailable (.str "getAttribute.js") "getAttribute.js"
      (.noSuchAtom "getAttribute.js")
    e.encode .empty (.str "getTitle") p (.str "s") = e'.encode .empty (.str "getTitle") p (.str "s")
      ∧ (e.encode .empty (.str "getElementAttribute") p (.str "s")).outcome
        = (e'.encode .empty (.str "getElementAttribute") p (.str "s")).outcome
      ∧ (e.encode .empty (.str "getElementAttribute") p (.str "s")).outcome = .error fault
      ∧ ∃ atom, (Script.atomSource .empty e.atoms (.str atom)).outcome = .error fault := by
  intro nothing other e e' p fault
  have hname : (Value.str "getElementAttribute").designated? = .ok (some .getElementAttribute) :=
    rfl
  have hfault : (e.encode .empty (.str "getElementAttribute") p (.str "s")).outcome
      = .error fault := rfl
  obtain ⟨hother, -, -⟩ := atoms_matter_to_two_commands (outcome_encoder .w3c (some nothing))
    (outcome_encoder .w3c (some other)) .empty .empty (.str "getTitle") p (.str "s")
  obtain ⟨-, hasked, hfaults⟩ := atoms_matter_to_two_commands
    (outcome_encoder .w3c (some nothing)) (outcome_encoder .w3c (some other)) .empty .empty
    (.str "getElementAttribute") p (.str "s")
  have hplain (c : Command) (hc : (Value.str "getTitle").designated? = .ok (some c)) :
      atomCommands.lookup c = none := by
    obtain rfl : Command.getTitle = c := Option.some.inj (Except.ok.inj hc)
    rfl
  obtain ⟨-, htitle⟩ := hother (Or.inr hplain)
  obtain ⟨halike, -⟩ := hasked .getElementAttribute "getAttribute.js" hname rfl
  obtain ⟨-, hattribute⟩ := halike rfl
  obtain ⟨-, _, atom, -, -, hsource⟩ := hfaults fault _ _ _ rfl (Or.inr hfault)
  exact ⟨htitle, hattribute, hfault, atom, hsource⟩

end Dialect

end BrowserRemote
