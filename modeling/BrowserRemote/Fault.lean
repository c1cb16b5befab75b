import BrowserRemote.File.Tree
import BrowserRemote.Text.Utf8
import BrowserRemote.Value.Basic

/-!
# Fault — everything that can go wrong, by cause

A fault names what was wrong and carries what its wording needs; `message` words it.  The faults
at the end have no wording of their own: they say that a value of the wrong type was handed over.
-/

namespace BrowserRemote

/-- Why a store, or the system itself, refused to hand something out. -/
inductive Refusal where
  | system
  | permission
  | missingKey
  | lookup
  | badValue
  | notFound
deriving DecidableEq, Repr

/-- What went wrong. -/
inductive Fault where
  /-- A table is being drafted: the name designates no command. -/
  | unknownCommand (label : String)
  | alreadyDefined (label : String)
  | alreadyAliased (label : String)
  | unknownMethod (label method : String)
  | undefinedTarget (label target : String)
  /-- The command is in no table. -/
  | unsupported (label : String)
  /-- A parameter of the path has no value. -/
  | missingParameter (name : String)
  | invalidAtomName (shown : String)
  | noSuchAtom (name : String)
  | undecodableAtom (name : String) (reason : Text.Utf8.Malformed)
  /-- The repository has no way of finding atoms. -/
  | noAtomLookup
  /-- A refusal, in the words of who refused. -/
  | refused (kind : Refusal) (text : String)
  /-- The script of an atom could not be had, for the given cause. -/
  | scriptUnavailable (atom : Value) (label : String) (cause : Fault)
  | unknownDialect (name : String)
  | noSettings (dialect : String)
  | noAttribute (shown : String)
  /-- The setup file leaves its settings unset. -/
  | settingsUnset (path : String)
  | unknownLevel (shown : String)
  /-- A rule is listed under something that is no command. -/
  | ruleKey (shown : String)
  /-- The path of a setup file leads nowhere. -/
  | unreachable (why : PathFault)
  /-- A setup file is a directory, holds no text, or holds a line that is no statement. -/
  | directoryRead
  | undecodableSetup
  | unreadableSetup
  | indentedSetup
  | unboundVariable
  | missingOption
  /-- A file name holds a NUL. -/
  | nulInFileName
  /-- The name of a package starts with a dot. -/
  | relativePackage
  /-- There is no package or directory to look for a package in. -/
  | missingParent
  /-- An operation got a value of a type it does not take. -/
  | wrongType
  /-- A value lacks the operation asked of it. -/
  | noOperation
  /-- What should be a pair is not one. -/
  | notAPair

namespace Fault

/-- **The wording of a fault.** -/
def message : Fault → String
  | .unknownCommand label => "unknown command: " ++ label
  | .alreadyDefined label => "command already defined: " ++ label
  | .alreadyAliased label => "command already aliased: " ++ label
  | .unknownMethod label method => "unknown HTTP method for " ++ label ++ ": " ++ method
  | .undefinedTarget label target =>
    "cannot alias " ++ label ++ " to " ++ target ++ ": the target is not defined"
  | .unsupported label => "command not supported: " ++ label
  | .missingParameter name => "no value for path parameter: " ++ name
  | .invalidAtomName shown => "invalid atom name: " ++ shown
  | .noSuchAtom name => "no such atom: " ++ name
  | .undecodableAtom name reason => "cannot decode atom " ++ name ++ ": " ++ reason.text
  | .refused _ text => text
  | .scriptUnavailable _ label _ => "script resource unavailable: " ++ label
  | .unknownDialect name => "unknown dialect: " ++ name
  | .noSettings dialect => "no configuration for dialect: " ++ dialect
  | .noAttribute shown =>
    "<class 'wirecodec.builder.Builder'> object has no attribute " ++ shown
  | .settingsUnset path => "the configuration file does not set CONFIG: " ++ path
  | .unknownLevel shown => "Unknown level: " ++ shown
  | .ruleKey shown => "rules must be keyed by CommandName, not: " ++ shown
  | _ => ""

/-- **The system's refusal to hand out the file at a path.** -/
def ofRead (why : ReadFault) (path : String) : Fault :=
  .refused (if why.isPermission then .permission else .system) (why.text path)

/-- The atom was not found: there is none, its name is refused, or its bytes are no text. -/
def isAtomNotFound : Fault → Bool
  | .invalidAtomName _ | .noSuchAtom _ | .undecodableAtom _ _ | .refused .notFound _ => true
  | _ => false

/-- The system failed to hand out a file. -/
def isSystemFailure : Fault → Bool
  | .refused .system _ | .refused .permission _ | .unreachable _ | .directoryRead => true
  | _ => false

/-- **A resource failure**: the atom was not found, or the system failed to hand it out. -/
def isResourceFailure (f : Fault) : Bool := f.isAtomNotFound || f.isSystemFailure

end Fault

/-! ## Chains of steps that may fail -/

/-- A chain that ends well passed its first step and then the others. -/
theorem ok_of_bind {α β : Type} {first : Except Fault α} {next : α → Except Fault β} {b : β}
    (h : first >>= next = .ok b) : ∃ a, first = .ok a ∧ next a = .ok b := by
  rcases first with fault | a
  · exact absurd h nofun
  · exact ⟨a, rfl, h⟩

/-- A chain that fails has failed in its first step or in the others. -/
theorem error_of_bind {α β : Type} {first : Except Fault α} {next : α → Except Fault β}
    {fault : Fault} (h : first >>= next = .error fault) :
    first = .error fault ∨ ∃ a, first = .ok a ∧ next a = .error fault := by
  rcases first with fault' | a
  · exact Or.inl (congrArg Except.error (Except.error.inj h))
  · exact Or.inr ⟨a, rfl, h⟩

end BrowserRemote
