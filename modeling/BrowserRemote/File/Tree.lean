import BrowserRemote.Text.Quoted

/-!
# File/Tree — the files of a system, and what a path leads to

A tree is given by its files, each by the names on the way to it from the root, and by the current
directory.  A path is walked name by name, from the root if it starts with a slash and from the
current directory if not: every name but the last must be a directory, `.` and the empty name stay
where they are, and `..` goes one directory up, which at the root leads nowhere else.  Names and
paths have a greatest length.  A tree has no links, and a file that is there may still be withheld
when it is read.

Some modules are found elsewhere, before the current directory is looked into.
-/

namespace BrowserRemote

/-! ## What files hold -/

/-- Why the system does not hand out a file that is there. -/
structure ReadFault where
  /-- The file cannot even be opened. -/
  atOpening : Bool
  number : Nat
  words : String
deriving DecidableEq, Repr

namespace ReadFault

/-- The numbers of a lack of permission. -/
def permissionNumbers : List Nat := [1, 13]

/-- The file is withheld for lack of permission. -/
def isPermission (why : ReadFault) : Bool := permissionNumbers.contains why.number

/-- **The wording of the system**, which names a file that cannot be opened by its path. -/
def text (why : ReadFault) (path : String) : String :=
  let told := "[Errno " ++ toString why.number ++ "] " ++ why.words
  if why.atOpening then told ++ ": " ++ Text.quoted path else told

end ReadFault

/-- What comes of reading a file. -/
inductive FileContent where
  | bytes (bs : List UInt8)
  /-- The file is there, and the system does not hand it out. -/
  | withheld (why : ReadFault)
deriving DecidableEq, Repr

/-- Files by the names on the way to them. -/
abbrev FileEntries := List (List String × FileContent)

/-! ## Trees -/

/-- The files of a system, seen from one of its directories. -/
structure FileTree where
  /-- The files, by the names on the way from the root. -/
  files : FileEntries
  /-- The names on the way to the current directory. -/
  here : List String
  /-- Modules that are found elsewhere, by their names, each with the files that it has there. -/
  elsewhere : List (String × FileEntries)

/-- What a path leads to. -/
inductive FileNode where
  /-- A file, by the names on the way to it. -/
  | file (names : List String) (content : FileContent)
  | directory
deriving DecidableEq, Repr

/-- Why a path leads nowhere. -/
inductive PathFault where
  | missing
  /-- The path goes on behind a file. -/
  | notDirectory
  | nameTooLong
deriving DecidableEq, Repr

namespace FileTree

/-- The names between the slashes of a path, empty ones kept. -/
def steps (path : String) : List String := (path.toList.splitOn '/').map String.ofList

/-- The name of the file that makes a directory a package. -/
def declaration : String := "__init__.py"

/-- The directory that files without a place of their own stand in. -/
def workingDirectory : List String := ["tmp", "work"]

/-- What every system has: the memory of the process is a file, and nothing is read at its start. -/
def systemFiles : FileEntries :=
  [(["proc", "self", "mem"], .withheld ⟨false, 5, "Input/output error"⟩)]

/-- Modules that are part of the runtime: no file is looked for, and they have none. -/
def runtimeModules : List String :=
  ["time", "sys", "builtins", "errno", "gc", "itertools", "marshal", "posix", "atexit",
    "faulthandler"]

/-- What the library runs on is loaded before any file is asked for: modules that are one file, and
packages, whose declarations are known to be there. -/
def loadedModules : List (String × FileEntries) :=
  ["enum", "os", "pkgutil", "types"].map (fun name => (name, []))
    ++ ["collections", "logging", "re", "selenium"].map fun name =>
      (name, [([name, declaration], .bytes [])])

/-- **The system whose current directory holds the files** given by their paths. -/
def ofFiles (files : List (String × List UInt8)) : FileTree where
  files := files.map (fun (path, bs) =>
      (workingDirectory ++ (steps path).filter fun n => n ≠ "" ∧ n ≠ ".", .bytes bs))
    ++ systemFiles
  here := workingDirectory
  elsewhere := runtimeModules.map (fun name => (name, [])) ++ loadedModules

/-- Nothing at all. -/
def empty : FileTree := ⟨[], [], []⟩

/-- What the file holds that the names lead to from the root. -/
def file? (t : FileTree) (names : List String) : Option FileContent := t.files.lookup names

/-- The names lead to the root, to the current directory, or to somewhere above a file. -/
def isDirectory (t : FileTree) (names : List String) : Bool :=
  names.isPrefixOf t.here || t.files.any fun entry => names.isPrefixOf entry.1 && names != entry.1

/-- The tree with a file put in the current directory, in place of any other there. -/
def put (t : FileTree) (name : String) (content : FileContent) : FileTree :=
  { t with files := (t.here ++ [name], content) :: t.files }

/-! ## Paths -/

/-- The most bytes a name may have. -/
def nameLimit : Nat := 255

/-- The number of bytes from which on a path is too long. -/
def pathLimit : Nat := 4096

/-- The name stays in a directory. -/
def isStay (name : String) : Bool := name == "" || name == "."

/-- Walks on from a directory. -/
def walk (t : FileTree) : List String → List String → Except PathFault FileNode
  | _, [] => .ok .directory
  | place, name :: names =>
    if isStay name then t.walk place names
    else if name = ".." then t.walk place.dropLast names
    else if nameLimit < name.utf8ByteSize then .error .nameTooLong
    else match t.file? (place ++ [name]) with
      | some content =>
        if names.isEmpty then .ok (.file (place ++ [name]) content) else .error .notDirectory
      | none =>
        if t.isDirectory (place ++ [name]) then t.walk (place ++ [name]) names
        else .error .missing

/-- Where a path starts from a directory: there, or at the root if it starts with a slash. -/
def start (here : List String) (path : String) : List String :=
  if path.toList.head? = some '/' then [] else here

/-- **What a path leads to**, or why it leads nowhere. -/
def locate (t : FileTree) (path : String) : Except PathFault FileNode :=
  if path = "" then .error .missing
  else if pathLimit ≤ path.utf8ByteSize then .error .nameTooLong
  else t.walk (start t.here path) (steps path)

/-- What a path leads to; a path with a NUL leads nowhere. -/
def node? (t : FileTree) (path : String) : Option FileNode :=
  if path.toList.contains '\x00' then none else (t.locate path).toOption

/-- **What comes of reading the regular file at a path**, if there is one. -/
def content? (t : FileTree) (path : String) : Option FileContent :=
  match t.node? path with
  | some (.file _ content) => some content
  | _ => none

/-- A name put behind a directory: a slash goes between them unless there is one, or nothing. -/
def join (directory name : String) : String :=
  match directory.toList.getLast? with
  | none | some '/' => directory ++ name
  | _ => directory ++ "/" ++ name

end FileTree

end BrowserRemote
