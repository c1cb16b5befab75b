import BrowserRemote.File.Tree
import BrowserRemote.Setup.Written
import BrowserRemote.Text.Utf8

/-!
# Setup/Workspace — where setup files are found

A workspace has a tree of files, and perhaps a program that stands in the current directory as one
of them, in place of any file of its name.  A path is walked through the tree; a file is read only
where it does not lead to the program.
-/

namespace BrowserRemote.Setup

/-- A tree of files, and perhaps a program that stands in it. -/
structure Workspace where
  files : FileTree
  program : Option (List Statement)

/-- The file a program stands at. -/
def programName : String := "config.py"

namespace Workspace

/-- The files, the program among them. -/
def tree (w : Workspace) : FileTree :=
  if w.program.isSome then w.files.put programName (.bytes []) else w.files

/-- The statements that bytes spell. -/
def statementsOfBytes (bytes : List UInt8) : Except Fault (List Statement) :=
  match Text.Utf8.decode bytes with
  | .ok cs => statementsOfText cs
  | .error _ => .error .undecodableSetup

/-- The statements of the file at a path, by what comes of reading it. -/
def statementsOf (path : String) : FileContent → Except Fault (List Statement)
  | .bytes bs => statementsOfBytes bs
  | .withheld why => .error (.ofRead why path)

/-- **The statements of the setup file at a path.** -/
def statementsAt (w : Workspace) (path : String) : Except Fault (List Statement) :=
  if path.toList.contains '\x00' then .error .nulInFileName
  else match w.tree.locate path with
    | .error why => .error (.unreachable why)
    | .ok .directory => .error .directoryRead
    | .ok (.file names content) => match w.program with
      | some statements =>
        if names = w.files.here ++ [programName] then .ok statements
        else statementsOf path content
      | none => statementsOf path content

end Workspace

end BrowserRemote.Setup
