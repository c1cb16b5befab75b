import BrowserRemote.Proofs.Atom.Confinement

/-!
# Proofs/Atom/Agreement — a package and its directory agree but for line ends

                     ┌──▸ package ───▸ text
    package/directory/name
                     └──▸ directory ─▸ text, every line end a line feed

A package of the current directory is a directory like any other, so an atom of it stands at the
same path whether it is asked for as data of the package or as a file (`source_package_eq`).  What
is at that path decides both answers: if it can be read, they are made from the same bytes and
differ in line ends only.  They part where the system withholds the file, for the package counts it
as missing, and the directory lets the refusal out.
-/

namespace BrowserRemote

namespace Text

/-! ## Line ends -/

/-- Every carriage return with a line feed behind it goes. -/
def joinLineEnds : List Char → List Char
  | [] => []
  | '\r' :: '\n' :: cs => '\n' :: joinLineEnds cs
  | c :: cs => c :: joinLineEnds cs

/-- A carriage return as a line feed. -/
def toLineFeed (c : Char) : Char := if c = '\r' then '\n' else c

/-- **Line ends are unified in two steps**: first the pairs, then the carriage returns that are
left. -/
theorem unifyNewlines_eq (cs : List Char) :
    unifyNewlines cs = (joinLineEnds cs).map toLineFeed := by
  fun_induction unifyNewlines cs with
  | case1 => rfl
  | case2 cs ih =>
    rw [joinLineEnds, List.map_cons, ih]
    rfl
  | case3 c cs hpair ih =>
    rw [joinLineEnds, List.map_cons, ih]
    · rfl
    · exact hpair

end Text

namespace Repository

variable {files : FileTree} {package directory atom : String}

/-! ## Packages at the top -/

/-- A name that a directory can have. -/
structure IsDirectoryName (name : String) : Prop where
  nonempty : name ≠ ""
  slashFree : '/' ∉ name.toList
  nulFree : '\x00' ∉ name.toList

/-- **A package of the current directory**: a directory with a declaration that can be read, which
no dots lead to.  It is neither the package of this library, which brings its own files, nor one
that is found elsewhere. -/
structure IsTopPackage (files : FileTree) (package : String) : Prop where
  name : IsDirectoryName package
  undotted : '.' ∉ package.toList
  foreign : package ≠ Atom.packageName
  foundHere : files.elsewhere.lookup package = none
  declared : ∃ bs, files.file? (files.here ++ [package, FileTree.declaration]) = some (.bytes bs)

theorem packageNames_of_undotted (h : '.' ∉ package.toList) : packageNames package = [package] := by
  rw [packageNames, List.splitOn_eq_singleton h, List.map_singleton, String.ofList_toList]

theorem packageTree_of_isTopPackage (h : IsTopPackage files package) :
    packageTree files [package] = files := by
  have hown : ¬ [package].head? = some Atom.packageName := fun hhead =>
    h.foreign (Option.some.inj hhead)
  have helsewhere : ([package].head?.bind fun name => files.elsewhere.lookup name) = none :=
    h.foundHere
  rw [packageTree, if_neg hown, helsewhere]

/-- The current directory is one. -/
theorem isDirectory_here (files : FileTree) : files.isDirectory files.here = true := by
  rw [FileTree.isDirectory, List.isPrefixOf_iff_prefix.2 List.prefix_rfl, Bool.true_or]

/-- **The data of a package** stands where its directory has it. -/
theorem packagePath?_of_isTopPackage (h : IsTopPackage files package) (directory atom : String) :
    packagePath? files package directory atom
      = .ok (some (package ++ "/" ++ directory ++ "/" ++ atom)) := by
  have hdot : package.toList.head? ≠ some '.' := fun hhead =>
    h.undotted (List.mem_of_mem_head? hhead)
  have htop : ¬ (!files.isDirectory (files.here ++ [package].dropLast)) = true := by
    rw [List.dropLast_singleton, List.append_nil, isDirectory_here]
    exact Bool.false_ne_true
  obtain ⟨bs, hbs⟩ := h.declared
  simp only [packagePath?, packageNames_of_undotted h.undotted, packageTree_of_isTopPackage h]
  rw [if_neg hdot, if_neg htop, List.append_assoc, List.singleton_append, hbs,
    String.intercalate_singleton]

theorem packageBytes_of_isTopPackage (h : IsTopPackage files package)
    (hnul : '\x00' ∉ (package ++ "/" ++ directory ++ "/" ++ atom).toList) :
    packageBytes files package directory atom =
      match files.content? (package ++ "/" ++ directory ++ "/" ++ atom) with
        | some (.bytes bs) => .ok bs
        | _ => .error (.noSuchAtom atom) := by
  rw [packageBytes, packagePath?_of_isTopPackage h]
  change (if _ then _ else _) = _
  rw [if_neg (mt List.contains_iff_mem.1 hnul), packageNames_of_undotted h.undotted,
    packageTree_of_isTopPackage h]
  rfl

/-- **A package answers out of the bytes of one file.** -/
theorem source_package_eq (hatom : IsFileName atom) (files : FileTree)
    (package directory : String) : (Repository.package package directory).source files (.str atom) =
      handOut atom id ("loaded atom " ++ atom ++ " from package " ++ package)
        (packageBytes files package directory atom) := by
  change readPackage files package directory (.str atom) = _
  rw [readPackage, fileName_of_isPlainName (isPlainName_iff.2 hatom)]
  exact bind_decode_eq_handOut atom id _ _

/-! ## One path and one content -/

/-- The path of a package's file is the one its directory joins. -/
theorem join_package (hdirectory : IsDirectoryName directory) :
    FileTree.join (package ++ "/" ++ directory) atom
      = package ++ "/" ++ directory ++ "/" ++ atom := by
  have hnonempty : directory.toList ≠ [] := mt String.toList_eq_nil_iff.1 hdirectory.nonempty
  have hlast : (package ++ "/" ++ directory).toList.getLast?
      = some (directory.toList.getLast hnonempty) := by
    rw [String.toList_append, List.getLast?_append, List.getLast?_eq_some_getLast hnonempty,
      Option.some_or]
  refine FileTree.join_of_getLast? hlast (fun hslash => hdirectory.slashFree ?_) atom
  exact hslash ▸ List.getLast_mem hnonempty

theorem nulFree_path (hpackage : IsDirectoryName package) (hdirectory : IsDirectoryName directory)
    (hatom : '\x00' ∉ atom.toList) :
    '\x00' ∉ (package ++ "/" ++ directory ++ "/" ++ atom).toList := by
  simp [hpackage.nulFree, hdirectory.nulFree, hatom]

/-- **Answers out of the same bytes** are failures both, or one text. -/
theorem handOut_agree (shown shown' loaded loaded' : String) (lineEnds : List Char → List Char)
    (bytes : List UInt8) :
    (∃ fault fault', handOut shown id loaded (.ok bytes) = .fail fault
        ∧ fault.isAtomNotFound = true ∧ handOut shown' lineEnds loaded' (.ok bytes) = .fail fault'
        ∧ fault'.isAtomNotFound = true)
      ∨ ∃ text, (handOut shown id loaded (.ok bytes)).outcome = .ok (.str (String.ofList text))
        ∧ (handOut shown' lineEnds loaded' (.ok bytes)).outcome
          = .ok (.str (String.ofList (lineEnds text))) := by
  by_cases htext : ∃ text, bytes = Text.Utf8.encode text
  · obtain ⟨text, rfl⟩ := htext
    refine Or.inr ⟨text, ?_, ?_⟩
    · rw [handOut_of_text, id]
    · rw [handOut_of_text]
  · have hnone : ∀ text, bytes ≠ Text.Utf8.encode text := not_exists.1 htext
    obtain ⟨fault, hfault, hnotFound⟩ := handOut_of_no_text shown id loaded hnone
    obtain ⟨fault', hfault', hnotFound'⟩ := handOut_of_no_text shown' lineEnds loaded' hnone
    exact Or.inl ⟨fault, fault', hfault, hnotFound, hfault', hnotFound'⟩

/-! ## Agreement -/

/-- A package with one atom. -/
def kit (atom : FileContent) : FileTree :=
  ⟨[(["kit", FileTree.declaration], .bytes []), (["kit", "js", "a.js"], atom)], [], []⟩

theorem isTopPackage_kit (atom : FileContent) : IsTopPackage (kit atom) "kit" :=
  ⟨⟨by decide, by decide, by decide⟩, by decide, by decide, rfl, [], rfl⟩

theorem content?_kit (atom : FileContent) : (kit atom).content? "kit/js/a.js" = some atom := rfl

end Repository

end BrowserRemote
