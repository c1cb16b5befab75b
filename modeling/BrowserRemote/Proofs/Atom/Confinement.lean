import BrowserRemote.Proofs.Atom.Answers

/-!
# Proofs/Atom/Confinement — a directory hands out its own files only

    name ──plain──▸ directory/name ──▸ file ──▸ bytes ──▸ text ──▸ source
     │                    │             │         └──no text ────▸ "not found"
     └──refused           └──no file    └──withheld ─────────────▸ the system's refusal

A plain name adds one step to the path of its directory, so all files that a directory hands out
stand side by side in one place (`exists_place`).  The answer is made from the content of the file
at that path and from nothing else (`source_directory_congr`): a text becomes the source, a file
that the system withholds is refused in its words (`source_directory_of_withheld`), and whatever
else is there, or not there, is an atom that was not found (`source_directory_of_not_hasAtom`).
-/

namespace BrowserRemote

namespace FileTree

variable {files : FileTree} {path : String}

/-- No path with a NUL leads to a file. -/
theorem content?_of_nul (h : '\x00' ∈ path.toList) : files.content? path = none := by
  rw [content?, node?, if_pos (List.contains_iff_mem.2 h)]

/-! ## The way to a file of a directory -/

/-- A name is joined by a slash to a directory that does not end in one. -/
theorem join_of_getLast? {directory : String} {c : Char}
    (h : directory.toList.getLast? = some c) (hc : c ≠ '/') (name : String) :
    join directory name = directory ++ "/" ++ name := by
  rw [join, h]
  split
  · next heq => cases heq
  · next heq => exact absurd (Option.some.inj heq) hc
  · rfl

theorem mem_join (directory : String) {name : String} {c : Char} (h : c ∈ name.toList) :
    c ∈ (join directory name).toList := by
  unfold join
  split <;> simp [h]

theorem steps_of_not_mem {name : String} (h : '/' ∉ name.toList) : steps name = [name] := by
  rw [steps, List.splitOn_eq_singleton h, List.map_singleton, String.ofList_toList]

theorem steps_append_slash (way : String) {name : String} (h : '/' ∉ name.toList) :
    steps (way ++ "/" ++ name) = steps way ++ [name] := by
  have hsplit : (way ++ "/" ++ name).toList = way.toList ++ '/' :: name.toList := by simp
  rw [← steps_of_not_mem h, steps, hsplit, List.splitOn_append_cons_self, List.map_append, ← steps,
    ← steps]

/-- **A plain name is one step** behind those of its directory. -/
theorem exists_steps_join (directory : String) :
    ∃ way, ∀ name : String, '/' ∉ name.toList → steps (join directory name) = way ++ [name] := by
  cases hlast : directory.toList.getLast? with
  | none =>
    refine ⟨[], fun name h => ?_⟩
    obtain rfl : directory = "" := String.toList_eq_nil_iff.1 (List.getLast?_eq_none_iff.1 hlast)
    rw [join, hlast, String.empty_append, steps_of_not_mem h, List.nil_append]
  | some c =>
    by_cases hc : c = '/'
    · subst hc
      obtain ⟨way, hway⟩ := List.getLast?_eq_some_iff.1 hlast
      have hdirectory : directory = String.ofList way ++ "/" := by
        rw [← String.toList_inj]
        simpa using hway
      refine ⟨steps (String.ofList way), fun name h => ?_⟩
      rw [join, hlast, hdirectory]
      exact steps_append_slash (String.ofList way) h
    · refine ⟨steps directory, fun name h => ?_⟩
      rw [join_of_getLast? hlast hc, steps_append_slash directory h]

/-- A plain name does not change where the path of its directory starts. -/
theorem start_join (here : List String) (directory : String) {name : String}
    (h : '/' ∉ name.toList) : start here (join directory name) = start here directory := by
  have hname : name.toList.head? ≠ some '/' := fun hhead => h (List.mem_of_mem_head? hhead)
  have hhead : (join directory name).toList.head? = some '/'
      ↔ directory.toList.head? = some '/' := by
    unfold join
    rcases hdirectory : directory.toList with _ | ⟨c, cs⟩
    · simp [hdirectory, hname]
    · split <;> simp [hdirectory]
  simp only [start, hhead]

/-! ## All files of a directory stand in one place -/

/-- A file is found by walking the steps of its path. -/
theorem walk_of_node?_eq_file {found : List String} {content : FileContent}
    (h : files.node? path = some (.file found content)) :
    files.walk (start files.here path) (steps path) = .ok (.file found content) := by
  have hlocate : files.locate path = .ok (.file found content) := by
    rw [node?] at h
    split at h
    · cases h
    · cases hwalk : files.locate path with
      | error why => rw [hwalk] at h; cases h
      | ok node => rw [hwalk] at h; cases h; rfl
  rw [locate] at hlocate
  split at hlocate
  · cases hlocate
  split at hlocate
  · cases hlocate
  exact hlocate

/-- Where one step leads. -/
def moved (place : List String) (name : String) : List String :=
  if isStay name then place else if name = ".." then place.dropLast else place ++ [name]

/-- **A walk that finds a file** finds it here under the name of its last step, or goes on from
where its first step leads. -/
theorem walk_cons_eq_file {place names found : List String} {name : String} {content : FileContent}
    (h : files.walk place (name :: names) = .ok (.file found content)) :
    (names = [] ∧ found = place ++ [name])
      ∨ files.walk (moved place name) names = .ok (.file found content) := by
  rw [walk] at h
  rw [moved]
  split at h
  · next hstay => exact Or.inr (by rwa [if_pos hstay])
  next hstay =>
  rw [if_neg hstay]
  split at h
  · next hup => exact Or.inr (by rwa [if_pos hup])
  next hup =>
  rw [if_neg hup]
  split at h
  · cases h
  split at h
  · split at h
    · next hlast =>
      cases h
      exact Or.inl ⟨List.isEmpty_iff.1 hlast, rfl⟩
    · cases h
  · split at h
    · exact Or.inr h
    · cases h

/-- **The file behind a way** stands where the way leads, whatever files there are. -/
theorem eq_of_walk_eq_file {way place found : List String} {name : String} {content : FileContent}
    (h : files.walk place (way ++ [name]) = .ok (.file found content)) :
    found = way.foldl moved place ++ [name] := by
  induction way generalizing place with
  | nil =>
    rcases walk_cons_eq_file h with ⟨-, hfound⟩ | hwalk
    · exact hfound
    · rw [walk] at hwalk
      cases hwalk
  | cons step way ih =>
    rcases walk_cons_eq_file h with ⟨hnil, -⟩ | hwalk
    · exact absurd hnil (List.append_ne_nil_of_right_ne_nil way (List.cons_ne_nil name []))
    · exact ih hwalk

/-- **All files of a directory stand in one place**, each under its own name; where that is depends
on the current directory only. -/
theorem exists_place (here : List String) (directory : String) :
    ∃ place, ∀ files : FileTree, files.here = here →
      ∀ (name : String) (found : List String) (content : FileContent), '/' ∉ name.toList →
        files.node? (join directory name) = some (.file found content) →
          found = place ++ [name] := by
  obtain ⟨way, hway⟩ := exists_steps_join directory
  refine ⟨way.foldl moved (start here directory), ?_⟩
  rintro files rfl name found content hname h
  have hwalk := walk_of_node?_eq_file h
  rw [hway name hname, start_join _ _ hname] at hwalk
  exact eq_of_walk_eq_file hwalk

end FileTree

namespace Repository

variable {files : FileTree} {atom : String}

/-! ## Refused names -/

theorem source_directory_of_refused (h : ¬ IsFileName atom) (files : FileTree)
    (directory : String) : (Repository.directory (.str directory)).source files (.str atom)
      = .fail (.invalidAtomName (Text.quoted atom)) := by
  change readDirectory files (.str directory) (.str atom) = _
  rw [readDirectory, fileName_of_not_isFileName h]
  rfl

theorem source_package_of_refused (h : ¬ IsFileName atom) (files : FileTree)
    (package directory : String) : (Repository.package package directory).source files (.str atom)
      = .fail (.invalidAtomName (Text.quoted atom)) := by
  change readPackage files package directory (.str atom) = _
  rw [readPackage, fileName_of_not_isFileName h]
  rfl

/-! ## Confinement -/

/-- **A directory has an atom**: its name is a plain file name, and the file at its path can be read
and is a text. -/
structure HasAtom (files : FileTree) (directory atom : String) : Prop where
  name : IsFileName atom
  text : ∃ text,
    files.content? (FileTree.join directory atom) = some (.bytes (Text.Utf8.encode text))

/-- **An atom is withheld**: its name is a plain file name, and there is a file at its path that the
system does not hand out. -/
structure Withheld (files : FileTree) (directory atom : String) (why : ReadFault) : Prop where
  name : IsFileName atom
  withheld : files.content? (FileTree.join directory atom) = some (.withheld why)

section Confinement

variable {directory : String}

theorem not_hasAtom_of_nul (h : '\x00' ∈ atom.toList) : ¬ HasAtom files directory atom := by
  rintro ⟨-, text, htext⟩
  rw [FileTree.content?_of_nul (FileTree.mem_join directory h)] at htext
  cases htext

theorem not_withheld_of_nul (h : '\x00' ∈ atom.toList) (why : ReadFault) :
    ¬ Withheld files directory atom why := by
  rintro ⟨-, hwithheld⟩
  rw [FileTree.content?_of_nul (FileTree.mem_join directory h)] at hwithheld
  cases hwithheld

theorem source_directory_of_hasAtom (h : HasAtom files directory atom) : ∃ source,
    ((Repository.directory (.str directory)).source files (.str atom)).outcome = .ok source := by
  obtain ⟨text, htext⟩ := h.text
  refine ⟨.str (String.ofList (Text.unifyNewlines text)), ?_⟩
  rw [source_directory_eq h.name, fileBytes_of_bytes htext, handOut_of_text]

/-- **What the system withholds** is refused as the system refuses it. -/
theorem source_directory_of_withheld {why : ReadFault} (h : Withheld files directory atom why) :
    (Repository.directory (.str directory)).source files (.str atom)
      = .fail (.ofRead why (FileTree.join directory atom)) := by
  rw [source_directory_eq h.name, fileBytes_of_withheld h.withheld]
  rfl

theorem source_directory_of_not_hasAtom (h : ¬ HasAtom files directory atom)
    (hwithheld : ∀ why, ¬ Withheld files directory atom why) : ∃ fault,
    (Repository.directory (.str directory)).source files (.str atom) = .fail fault
      ∧ fault.isAtomNotFound = true := by
  by_cases hname : IsFileName atom
  · rw [source_directory_eq hname]
    rcases hcontent : files.content? (FileTree.join directory atom) with _ | bs | why
    · rw [fileBytes_of_none hcontent]
      exact ⟨_, rfl, rfl⟩
    · rw [fileBytes_of_bytes hcontent]
      refine handOut_of_no_text _ _ _ fun text htext => h ⟨hname, text, ?_⟩
      rw [hcontent, htext]
    · exact absurd ⟨hname, hcontent⟩ (hwithheld why)
  · exact ⟨_, source_directory_of_refused hname files directory, rfl⟩

/-- A source comes from an atom that the directory has. -/
theorem hasAtom_of_source {source : Value}
    (h : ((Repository.directory (.str directory)).source files (.str atom)).outcome = .ok source) :
    HasAtom files directory atom := by
  by_cases hatom : HasAtom files directory atom
  · exact hatom
  by_cases hwithheld : ∃ why, Withheld files directory atom why
  · obtain ⟨why, hwithheld⟩ := hwithheld
    rw [source_directory_of_withheld hwithheld] at h
    cases h
  · obtain ⟨fault, hfault, -⟩ :=
      source_directory_of_not_hasAtom hatom (not_exists.1 hwithheld)
    rw [hfault] at h
    cases h

/-- Only the content of the one file counts. -/
theorem source_directory_congr {others : FileTree}
    (h : others.content? (FileTree.join directory atom)
      = files.content? (FileTree.join directory atom)) :
    (Repository.directory (.str directory)).source others (.str atom)
      = (Repository.directory (.str directory)).source files (.str atom) := by
  by_cases hname : IsFileName atom
  · rw [source_directory_eq hname, source_directory_eq hname, fileBytes, fileBytes, h]
  · rw [source_directory_of_refused hname, source_directory_of_refused hname]

end Confinement

end Repository

end BrowserRemote
