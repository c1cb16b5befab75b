import BrowserRemote.Atom.Repository
import BrowserRemote.Entries
import BrowserRemote.Proofs.Log.Outcomes
import BrowserRemote.Proofs.Text.Utf8

/-!
# Proofs/Atom/Answers — what repositories answer

    mapping ──has the name──▸ its own source
       │
       └──lacks it──▸ the repository behind it

    directory ──▸ the text of its file, the refusal of the system, or "not found"
    packaged  ──▸ the text that comes with the library

A mapping asks the repository behind it only for what it lacks (`source_mapping`).  A directory
answers out of the bytes of one file (`source_directory_eq`), with its text or not at all
(`source_directory_of_text?`, `source_directory_of_no_text`).  The packaged atoms are always there
(`source_packaged`).
-/

namespace BrowserRemote

/-- **The text of the file at a path**, line ends unified, if there is a file of text that can be
read. -/
def FileTree.text? (files : FileTree) (path : String) : Option String :=
  match files.content? path with
  | some (.bytes bs) =>
    (Text.Utf8.decode bs).toOption.map fun cs => String.ofList (Text.unifyNewlines cs)
  | _ => none

/-- The text of a file is there exactly if the file can be read and its bytes are a text. -/
theorem FileTree.text?_eq_some_iff {files : FileTree} {path text : String} :
    files.text? path = some text ↔ ∃ cs, files.content? path = some (.bytes (Text.Utf8.encode cs))
      ∧ String.ofList (Text.unifyNewlines cs) = text := by
  rw [text?]
  constructor
  · intro h
    split at h
    · next bs hcontent =>
      cases hdecoded : Text.Utf8.decode bs with
      | error reason => rw [hdecoded] at h; cases h
      | ok cs =>
        rw [hdecoded] at h
        exact ⟨cs, Text.Utf8.decode_eq_ok_iff.1 hdecoded ▸ hcontent, Option.some.inj h⟩
    · cases h
  · rintro ⟨cs, hcontent, rfl⟩
    rw [hcontent]
    dsimp only
    rw [Text.Utf8.decode_encode]
    rfl

/-- The refusal of the system is a failure of the system, and no atom that was not found. -/
theorem Fault.ofRead_classified (why : ReadFault) (path : String) :
    (ofRead why path).isAtomNotFound = false ∧ (ofRead why path).isSystemFailure = true := by
  rw [ofRead]
  cases why.isPermission <;> exact ⟨rfl, rfl⟩

/-- The text of an atom that comes with the library. -/
def Atom.packagedText? (atom : String) : Option String :=
  [(getAttribute, getAttributeSource), (isDisplayed, isDisplayedSource)].lookup atom

namespace Repository

variable {files : FileTree} {atom : String}

/-- **A mapping answers with its own sources first.** -/
theorem source_mapping (sources : Dict) (fallback : Option Repository) (atom : String) :
    (mapping sources fallback).source files (.str atom) = match sources.field? atom with
      | some value => pure value
      | none => sourceBehind files fallback (.str atom) := by
  rw [← Dict.get?_str]
  rfl

/-! ## Names -/

/-- **A plain file name**: it is not empty, has no slash, and does not start with a dot. -/
structure IsFileName (name : String) : Prop where
  nonempty : name ≠ ""
  slashFree : '/' ∉ name.toList
  visible : name.toList.head? ≠ some '.'

theorem isPlainName_iff : isPlainName atom = true ↔ IsFileName atom := by
  unfold isPlainName
  split
  · next hnil =>
    exact ⟨nofun, fun h => absurd (String.toList_eq_nil_iff.1 hnil) h.nonempty⟩
  · next c cs hcons =>
    have hnonempty : atom ≠ "" := fun hempty => by
      rw [hempty] at hcons
      cases hcons
    have hchecks : (c != '.' && !(c :: cs).contains '/') = true ↔ '/' ∉ c :: cs ∧ c ≠ '.' := by
      rw [Bool.and_eq_true, and_comm, bne_iff_ne, Bool.not_eq_true', ← Bool.not_eq_true,
        List.contains_iff_mem]
    rw [hchecks]
    constructor
    · rintro ⟨hslash, hdot⟩
      exact ⟨hnonempty, hcons ▸ hslash, fun hhead => hdot (by simpa [hcons] using hhead)⟩
    · rintro ⟨-, hslash, hdot⟩
      exact ⟨hcons ▸ hslash, fun hc => hdot (by rw [hcons, hc]; rfl)⟩

theorem fileName_of_isPlainName (h : isPlainName atom = true) :
    fileName (.str atom) = .ok atom := by
  have hholds : (Value.str atom).holds = true := by
    refine bne_iff_ne.2 fun hempty => ?_
    rw [hempty] at h
    exact absurd h Bool.false_ne_true
  rw [fileName, if_pos hholds]
  exact if_pos h

/-- A name that is no file name is refused. -/
theorem fileName_of_not_isFileName (h : ¬ IsFileName atom) :
    fileName (.str atom) = .error (.invalidAtomName (Text.quoted atom)) := by
  have hrefuse : refuse (.str atom) = .error (.invalidAtomName (Text.quoted atom)) := rfl
  rw [fileName]
  split
  · exact (if_neg (mt isPlainName_iff.1 h)).trans hrefuse
  · exact hrefuse

/-! ## Answers out of the bytes of a file -/

/-- **The answer that the bytes of a file give**, or the failure to have them.  The source is their
text, with its line ends treated in some way, and one record says that it was loaded; `shown` names
the file if its bytes are no text. -/
def handOut (shown : String) (lineEnds : List Char → List Char) (loaded : String) :
    Except Fault (List UInt8) → Traced Value
  | .error fault => .fail fault
  | .ok bytes => match Text.Utf8.decode bytes with
    | .ok cs => ⟨.ok (.str (String.ofList (lineEnds cs))), [⟨.atoms, .debug, .ok loaded⟩]⟩
    | .error reason => .fail (.undecodableAtom shown reason)

section HandOut

variable (shown : String) (lineEnds : List Char → List Char) (loaded : String)

/-- A text is handed out. -/
theorem handOut_of_text (text : List Char) :
    handOut shown lineEnds loaded (.ok (Text.Utf8.encode text))
      = ⟨.ok (.str (String.ofList (lineEnds text))), [⟨.atoms, .debug, .ok loaded⟩]⟩ := by
  rw [handOut, Text.Utf8.decode_encode]

/-- Bytes that are not read cannot be decoded, for the same reason. -/
theorem handOut_of_error {bytes : List UInt8} {reason : Text.Utf8.Malformed}
    (h : Text.Utf8.decode bytes = .error reason) :
    handOut shown lineEnds loaded (.ok bytes) = .fail (.undecodableAtom shown reason) := by
  rw [handOut, h]

/-- **Bytes of no text are an atom that was not found.** -/
theorem handOut_of_no_text {bytes : List UInt8} (h : ∀ text, bytes ≠ Text.Utf8.encode text) :
    ∃ fault, handOut shown lineEnds loaded (.ok bytes) = .fail fault
      ∧ fault.isAtomNotFound = true := by
  obtain ⟨reason, hreason⟩ := Text.Utf8.exists_decode_eq_error h
  exact ⟨_, handOut_of_error shown lineEnds loaded hreason, rfl⟩

/-- Reading bytes, if they can be had, as text, and then the record: this is handing them out. -/
theorem bind_decode_eq_handOut (bytes : Except Fault (List UInt8)) :
    (do
      let bytes ← bytes
      let cs ← decode shown bytes
      .write .atoms .debug loaded
      return .str (String.ofList (lineEnds cs)) : Traced Value)
      = handOut shown lineEnds loaded bytes := by
  cases bytes with
  | error fault => rfl
  | ok bytes =>
    change (liftM (decode shown bytes) >>= _) = _
    rw [decode, handOut]
    cases Text.Utf8.decode bytes <;> rfl

end HandOut

/-! ## Directories -/

/-- **A directory answers out of the bytes of one file.** -/
theorem source_directory_eq (h : IsFileName atom) (files : FileTree) (directory : String) :
    (Repository.directory (.str directory)).source files (.str atom) =
      handOut (FileTree.join directory atom) Text.unifyNewlines
        ("loaded atom " ++ atom ++ " from " ++ FileTree.join directory atom)
        (fileBytes files (FileTree.join directory atom)) := by
  change readDirectory files (.str directory) (.str atom) = _
  rw [readDirectory, fileName_of_isPlainName (isPlainName_iff.2 h)]
  exact bind_decode_eq_handOut _ _ _ _

theorem fileBytes_of_bytes {path : String} {bs : List UInt8}
    (h : files.content? path = some (.bytes bs)) : fileBytes files path = .ok bs := by
  rw [fileBytes, h]

theorem fileBytes_of_withheld {path : String} {why : ReadFault}
    (h : files.content? path = some (.withheld why)) :
    fileBytes files path = .error (.ofRead why path) := by
  rw [fileBytes, h]

theorem fileBytes_of_none {path : String} (h : files.content? path = none) :
    fileBytes files path = .error (.noSuchAtom path) := by
  rw [fileBytes, h]

/-- **A directory answers with the text of its file**, if there is one. -/
theorem source_directory_of_text? (h : isPlainName atom = true) {directory text : String}
    (htext : files.text? (FileTree.join directory atom) = some text) :
    ((Repository.directory (.str directory)).source files (.str atom)).outcome
      = .ok (.str text) := by
  obtain ⟨cs, hcontent, rfl⟩ := FileTree.text?_eq_some_iff.1 htext
  rw [source_directory_eq (isPlainName_iff.1 h), fileBytes_of_bytes hcontent, handOut_of_text]

/-- **A directory without such a file of text has no source for the atom**: it was not found, or the
system withholds it. -/
theorem source_directory_of_no_text (h : isPlainName atom = true) {directory : String}
    (htext : files.text? (FileTree.join directory atom) = none) :
    ∃ cause, cause.isResourceFailure = true ∧
      ((Repository.directory (.str directory)).source files (.str atom)).outcome
        = .error cause := by
  rw [source_directory_eq (isPlainName_iff.1 h)]
  rcases hcontent : files.content? (FileTree.join directory atom) with _ | bs | why
  · rw [fileBytes_of_none hcontent]
    exact ⟨_, rfl, rfl⟩
  · have hnone : ∀ cs, bs ≠ Text.Utf8.encode cs := by
      rintro cs rfl
      rw [FileTree.text?_eq_some_iff.2 ⟨cs, hcontent, rfl⟩] at htext
      cases htext
    obtain ⟨fault, hfault, hnotFound⟩ := handOut_of_no_text _ _ _ hnone
    rw [fileBytes_of_bytes hcontent, hfault]
    exact ⟨fault, by rw [Fault.isResourceFailure, hnotFound, Bool.true_or], rfl⟩
  · rw [fileBytes_of_withheld hcontent]
    refine ⟨_, ?_, rfl⟩
    rw [Fault.isResourceFailure, (Fault.ofRead_classified why _).2, Bool.or_true]

/-! ## The packaged atoms -/

theorem outcome_readPackage (package directory : String) (name : Value) :
    (readPackage files package directory name).outcome = (do
      let file ← fileName name
      let bytes ← packageBytes files package directory file
      let cs ← decode file bytes
      return .str (String.ofList cs)) := by
  simp only [readPackage, Traced.outcome_bind]
  rfl

/-- **The packaged atoms are there, whatever files there are.** -/
theorem source_packaged {text : String} (h : Atom.packagedText? atom = some text) :
    (packaged.source files (.str atom)).outcome = .ok (.str text) := by
  obtain ⟨hname, hbytes⟩ : isPlainName atom = true ∧
      packageBytes files Atom.packageName Atom.packageDirectory atom
        = .ok (Text.Utf8.encode text.toList) := by
    have hmem := mem_of_lookup h
    simp only [List.mem_cons, List.not_mem_nil, or_false, Prod.mk.injEq] at hmem
    obtain ⟨rfl, rfl⟩ | ⟨rfl, rfl⟩ := hmem
    · exact ⟨rfl, rfl⟩
    · exact ⟨rfl, rfl⟩
  change (readPackage files Atom.packageName Atom.packageDirectory (.str atom)).outcome = _
  rw [outcome_readPackage, fileName_of_isPlainName hname]
  change (packageBytes files Atom.packageName Atom.packageDirectory atom >>= _) = _
  rw [hbytes]
  change (decode atom (Text.Utf8.encode text.toList) >>= _) = _
  rw [decode, Text.Utf8.decode_encode]
  exact congrArg (Except.ok ∘ Value.str) String.ofList_toList

end Repository

end BrowserRemote
