import BrowserRemote.Proofs.Request.ScriptCalls
import BrowserRemote.Proofs.Script.WireForm

/-!
# Proofs/Request/ScriptArguments — a script gets the entries its command is about, and no others

    rule ─────────────────▸ body ──────────────────────────┐
                                                           ├──▸ script, args
    parameters ──entries──▸ arguments ──▸ as they travel ──┘

An adaptation to a script has a body in which no parameter has a part, and reads its arguments from
a few entries (`Adaptation.apply_of_scriptBody?`).  So all that is known of the parameters after it
is in these entries (`Dialect.exists_body_adapt_eq`), and what they hold is converted on the way.
-/

namespace BrowserRemote

namespace Script

/-- An entry as it travels among the arguments: an element goes by a reference to it. -/
def sentArgument (p : Dict) (q : String) : Value :=
  if q = "id" then elementReference (toWire (p.entry q)) else toWire (p.entry q)

theorem toWire_argumentOf (p : Dict) (q : String) :
    toWire (Adaptation.argumentOf p q) = sentArgument p q := by
  unfold Adaptation.argumentOf sentArgument
  split
  · rfl
  · rfl

/-- A reference is wire-normal when the identifier in it is. -/
theorem wireNormal_elementReference_iff (id : Value) :
    WireNormal (elementReference id) ↔ WireNormal id := by
  simp [elementReference, WireNormal, EntriesNormal]

/-- **Arguments are wire-normal** when the identifiers of the handles in their entries are. -/
theorem wireNormal_sentArguments_iff (p : Dict) (names : List String) :
    WireNormal (.list (names.map (sentArgument p)))
      ↔ ∀ q ∈ names, ∀ id ∈ reachedIds (p.entry q), WireNormal id := by
  rw [WireNormal, itemsNormal_iff, List.forall_mem_map]
  refine forall₂_congr fun q _ => ?_
  rw [← wireNormal_toWire_iff, sentArgument]
  split
  · exact wireNormal_elementReference_iff _
  · rfl

end Script

namespace Dialect

open Script (sentArgument reachedIds WireNormal)

variable {files : FileTree} {atoms : Option Repository} {name : Value} {c : Command}
  {entries : List String}

/-- **The entries the script commands are about**, each in the order of its arguments. -/
def scriptEntries : List (Command × List String) := [
  (.getElementAttribute, ["id", "name"]),
  (.isElementDisplayed, ["id"]),
  (.submitElement, ["id"]),
  (.getElementLocationOnceScrolledIntoView, ["id"]),
  (.setCurrentWindowPosition, ["x", "y"]),
  (.getPageSource, []),
  (.getCurrentWindowPosition, [])]

/-- These are all the commands with an alias of the script command. -/
theorem exists_scriptEntries_iff (c : Command) : (∃ entries, scriptEntries.lookup c = some entries)
    ↔ (commandTable .w3c).aliases.lookup c = some .executeScript := by
  have hall : ∀ c, (scriptEntries.lookup c).isSome = true ↔ c ∈ scriptCommands := by decide
  rw [alias_eq_executeScript_iff, ← hall c, Option.isSome_iff_exists]

/-- The rule of each makes the call of a script and reads just these entries. -/
theorem rule_of_scriptEntries (h : scriptEntries.lookup c = some entries) :
    ∃ a, (rules .w3c).lookup c = some a ∧ a.isScript = true ∧ a.argumentNames = entries := by
  have hall : ∀ e ∈ scriptEntries, ((rules .w3c).lookup e.1).any (fun a =>
      a.isScript && a.argumentNames == e.2) = true := by decide
  obtain ⟨a, ha, hrule⟩ := (Option.any_eq_true _ _).1 (hall (c, entries) (mem_of_lookup h))
  obtain ⟨hscript, hnames⟩ := Bool.and_eq_true_iff.1 hrule
  exact ⟨a, ha, hscript, beq_iff_eq.1 hnames⟩

/-- **Adapting a script command** puts its entries, as they travel, behind a body that depends on no
parameter. -/
theorem exists_body_adapt_eq (hname : name.designated? = .ok (some c))
    (hc : scriptEntries.lookup c = some entries) (files : FileTree) (atoms : Option Repository) :
    ∃ body : Traced String, ∀ p : Dict, (rules .w3c).adapt files atoms name (.dict p) =
      (fun text => Script.Call.parameters
        ⟨String.ofList (Script.escapeQuotes text.toList), entries.map (sentArgument p)⟩)
          <$> body := by
  obtain ⟨a, ha, hscript, rfl⟩ := rule_of_scriptEntries hc
  obtain ⟨body, hbody⟩ := Adaptation.exists_scriptBody? hscript files atoms
  refine ⟨body, fun p => ?_⟩
  have hargs : (a.argumentNames.map (Adaptation.argumentOf p)).map Script.toWire
      = a.argumentNames.map (sentArgument p) := by
    rw [List.map_map]
    exact List.map_congr_left fun q _ => Script.toWire_argumentOf p q
  rw [Rules.adapt_eq hname, ha, ← hargs]
  exact Adaptation.apply_of_scriptBody? hbody p

/-- **Scripts get the entries their command is about, and get them as they travel.**  For each of
the commands that the W3C dialect leaves to a script, parameters that agree on its entries, absent
ones counting as null, are adapted alike: with the same outcome and the same records.  When they
are adapted, a script and its arguments are all there is, and the arguments are those entries in
their order, converted, an identifier inside a reference.  No tuple and no handle is left in the
arguments, keys apart, if all handles in these entries have texts for identifiers. -/
theorem script_gets_its_entries (hname : name.designated? = .ok (some c))
    (hc : scriptEntries.lookup c = some entries) (files : FileTree) (atoms : Option Repository)
    (p : Dict) :
    (∀ d, (∃ own, scriptEntries.lookup d = some own)
      ↔ (commandTable .w3c).aliases.lookup d = some .executeScript)
    ∧ (∀ p' : Dict, (∀ q ∈ entries, p.entry q = p'.entry q) →
        (rules .w3c).adapt files atoms name (.dict p)
          = (rules .w3c).adapt files atoms name (.dict p'))
    ∧ (∀ m, ((rules .w3c).adapt files atoms name (.dict p)).outcome = .ok m →
        ∃ script, m = [(.str "script", .str script),
          (.str "args", .list (entries.map (sentArgument p)))])
    ∧ ((∀ q ∈ entries, ∀ id ∈ reachedIds (p.entry q), ∃ s, id = .str s) →
        WireNormal (.list (entries.map (sentArgument p)))) := by
  obtain ⟨body, hbody⟩ := exists_body_adapt_eq hname hc files atoms
  refine ⟨exists_scriptEntries_iff, ?_, ?_, ?_⟩
  · intro p' hagree
    have hargs : entries.map (sentArgument p) = entries.map (sentArgument p') := by
      refine List.map_congr_left fun q hq => ?_
      rw [sentArgument, sentArgument, hagree q hq]
    rw [hbody p, hbody p', hargs]
  · intro m hm
    rw [hbody p] at hm
    obtain ⟨text, -, hm⟩ := Traced.ok_of_outcome_bind hm
    exact ⟨_, (Except.ok.inj hm).symm⟩
  · intro htexts
    refine (Script.wireNormal_sentArguments_iff p entries).2 fun q hq id hid => ?_
    obtain ⟨s, rfl⟩ := htexts q hq id hid
    trivial

/-- A window is moved by its two coordinates alone: a third entry is left out, and an absent one is
null. -/
theorem moved_window_gets_coordinates :
    let p : Dict := [(.str "z", .int 3), (.str "x", .tuple [.element (.str "e1"), .int 1])]
    let p' : Dict := [(.str "x", .tuple [.element (.str "e1"), .int 1]), (.str "y", .null)]
    let args : List Value :=
      [.list [.dict [(.str Script.elementKey, .str "e1")], .int 1], .null]
    ((rules .w3c).adapt .empty none (.str "setWindowPosition") (.dict p))
        = ((rules .w3c).adapt .empty none (.str "setWindowPosition") (.dict p'))
      ∧ (∃ script, ((rules .w3c).adapt .empty none (.str "setWindowPosition") (.dict p)).outcome
          = .ok [(.str "script", .str script), (.str "args", .list args)])
      ∧ WireNormal (.list args) := by
  intro p p' args
  have hname : (Value.str "setWindowPosition").designated? = .ok (some .setCurrentWindowPosition) :=
    rfl
  have hc : scriptEntries.lookup .setCurrentWindowPosition = some ["x", "y"] := rfl
  obtain ⟨-, halike, hargs, hnormal⟩ := script_gets_its_entries hname hc .empty none p
  have hagree : ∀ q ∈ ["x", "y"], p.entry q = p'.entry q := by
    simp only [List.forall_mem_cons]
    exact ⟨rfl, rfl, nofun⟩
  have htexts : ∀ q ∈ ["x", "y"], ∀ id ∈ reachedIds (p.entry q), ∃ s, id = .str s := by
    simp only [List.forall_mem_cons]
    exact ⟨fun id hid => ⟨"e1", List.mem_singleton.1 hid⟩, nofun, nofun⟩
  obtain ⟨script, hm⟩ := hargs _ rfl
  exact ⟨halike p' hagree, ⟨script, congrArg Except.ok hm⟩, hnormal htexts⟩

end Dialect

end BrowserRemote
