import BrowserRemote.Atom.Packaged
import BrowserRemote.Log.Traced
import BrowserRemote.Text.Newline
import BrowserRemote.Value.Dict
import BrowserRemote.Value.Text

/-!
# Atom/Repository — where atoms are found

A repository answers the name of an atom with its source.  Packages and directories read files and
take only plain file names; a mapping holds sources itself and hands the names it lacks on to
another repository.  Any other way of finding atoms is a `custom` repository.

Names are texts, and every text can be handed to the system as the name of a file.  A file that is
there may still be withheld: a package counts it as missing, and a directory lets the refusal out.
-/

namespace BrowserRemote

/-- A way of finding the source of an atom by its name. -/
inductive Repository where
  /-- The files of a directory that a package brings along. -/
  | package (name directory : String)
  /-- The files of a directory; only a text is the path of one. -/
  | directory (path : Value)
  /-- Sources by name, and where to look for all others. -/
  | mapping (sources : Dict) (fallback : Option Repository)
  /-- No way of finding atoms. -/
  | undefined
  /-- Any other way. -/
  | custom (answer : Value → Traced Value)

namespace Repository

/-- The repository of the atoms the library brings along. -/
def packaged : Repository := .package Atom.packageName Atom.packageDirectory

/-- The mapping a value makes, in front of another repository. -/
def ofMapping (sources : Value) (fallback : Option Repository) : Except Fault Repository :=
  return .mapping (← sources.toDict) fallback

/-! ## Names of atoms -/

/-- The text has no slash and does not start with a dot. -/
def isPlainName (s : String) : Bool :=
  match s.toList with
  | [] => false
  | c :: cs => c != '.' && !(c :: cs).contains '/'

/-- The fault of a name that is refused. -/
def refuse (name : Value) : Except Fault String := do
  throw (.invalidAtomName (← name.shown))

/-- The item of a container that is a slash. -/
def holdsSlash (items : List Value) : Bool := items.any (Value.sameKey (.str "/"))

/-- **The file name a value is**: a text that is not empty, has no slash and does not start with a
dot.  Every value that does not hold is refused as a name, and so is a container of a slash. -/
def fileName (name : Value) : Except Fault String :=
  if name.holds then
    match name with
    | .str s => if isPlainName s then .ok s else refuse name
    | .list items | .tuple items => if holdsSlash items then refuse name else .error .noOperation
    | .dict entries =>
      if holdsSlash (entries.map (·.1)) then refuse name else .error .noOperation
    | _ => .error .wrongType
  else refuse name

/-! ## Files -/

/-- The text of a file's bytes; `shown` names the file if they are none. -/
def decode (shown : String) (bytes : List UInt8) : Except Fault (List Char) :=
  match Text.Utf8.decode bytes with
  | .ok cs => .ok cs
  | .error reason => .error (.undecodableAtom shown reason)

/-- The names on the way to the directory of a package: the parts of its dotted name. -/
def packageNames (package : String) : List String :=
  (package.toList.splitOn '.').map String.ofList

/-- The files a package is looked for in: its own for the package of this library and for those that
are found elsewhere, and else those of the current directory. -/
def packageTree (files : FileTree) (names : List String) : FileTree :=
  if names.head? = some Atom.packageName then ⟨Atom.packageFiles, [], []⟩
  else match names.head?.bind fun name => files.elsewhere.lookup name with
    | some own => ⟨own, [], []⟩
    | none => files

/-- The file of a package's data, if there is such a package.  The name must not start with a dot,
and what stands in front of its last dot must lead to a directory.  A package whose declaration is
withheld cannot be loaded, so it has no data. -/
def packagePath? (files : FileTree) (package directory name : String) :
    Except Fault (Option String) :=
  let names := packageNames package
  let tree := packageTree files names
  if package.toList.head? = some '.' then .error .relativePackage
  else if !tree.isDirectory (tree.here ++ names.dropLast) then .error .missingParent
  else match tree.file? (tree.here ++ names ++ [FileTree.declaration]) with
    | some (.bytes _) =>
      .ok (some ("/".intercalate names ++ "/" ++ directory ++ "/" ++ name))
    | _ => .ok none

/-- The bytes of a package's file; a file that the system withholds counts as missing. -/
def packageBytes (files : FileTree) (package directory name : String) :
    Except Fault (List UInt8) := do
  match ← packagePath? files package directory name with
  | none => throw (.noSuchAtom name)
  | some path =>
    if path.toList.contains '\x00' then throw .nulInFileName
    else match (packageTree files (packageNames package)).content? path with
      | some (.bytes bs) => return bs
      | _ => throw (.noSuchAtom name)

/-- **An atom of a package**: its bytes as text, line ends kept. -/
def readPackage (files : FileTree) (package directory : String) (name : Value) :
    Traced Value := do
  let file ← fileName name
  let bytes ← packageBytes files package directory file
  let cs ← decode file bytes
  .write .atoms .debug ("loaded atom " ++ file ++ " from package " ++ package)
  return .str (String.ofList cs)

/-- The path of a file in a directory, if a text gives the directory. -/
def pathIn (directory : Value) (name : String) : Except Fault String :=
  match directory with
  | .str d => .ok (FileTree.join d name)
  | _ => .error .wrongType

/-- The bytes of the file at a path; where the system withholds them, its refusal comes out. -/
def fileBytes (files : FileTree) (path : String) : Except Fault (List UInt8) :=
  match files.content? path with
  | some (.bytes bs) => .ok bs
  | some (.withheld why) => .error (.ofRead why path)
  | none => .error (.noSuchAtom path)

/-- **An atom of a directory**: its bytes as text, line ends unified. -/
def readDirectory (files : FileTree) (directory name : Value) : Traced Value := do
  let file ← fileName name
  let path ← pathIn directory file
  let bytes ← fileBytes files path
  let cs ← decode path bytes
  .write .atoms .debug ("loaded atom " ++ file ++ " from " ++ path)
  return .str (String.ofList (Text.unifyNewlines cs))

/-! ## Answers -/

/-- The fault of a name that no repository of a chain has; it must be a text to be named. -/
def missing (name : Value) : Except Fault Value :=
  match name with
  | .str s => .error (.noSuchAtom s)
  | _ => .error .wrongType

mutual

/-- **The source a repository answers a name with.** -/
def source (files : FileTree) : Repository → Value → Traced Value
  | .package pkg dir, name => readPackage files pkg dir name
  | .directory path, name => readDirectory files path name
  | .mapping sources fallback, name => do
    let key ← name.asKey
    match sources.get? key with
    | some value => return value
    | none => sourceBehind files fallback name
  | .undefined, _ => .fail .noAtomLookup
  | .custom answer, name => answer name

/-- The answer for a name a mapping lacks: that of the repository behind it, if there is one. -/
def sourceBehind (files : FileTree) : Option Repository → Value → Traced Value
  | none, name => missing name
  | some next, name => next.source files name

end

end Repository

end BrowserRemote
