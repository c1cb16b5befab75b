import BrowserRemote.Fault

/-!
# Log/Record — log records and the levels that hold them back

The text of a record is worked out only where the record is shown, and may turn out to be none:
a record that a level holds back never fails.
-/

namespace BrowserRemote

/-- How much a record matters. -/
inductive Severity where
  | debug
  | info
  | warning
  | error
  | critical
deriving DecidableEq, Repr

namespace Severity

/-- The number a severity is compared by. -/
def rank : Severity → Int
  | .debug => 10
  | .info => 20
  | .warning => 30
  | .error => 40
  | .critical => 50

/-- The word a record carries. -/
def label : Severity → String
  | .debug => "DEBUG"
  | .info => "INFO"
  | .warning => "WARNING"
  | .error => "ERROR"
  | .critical => "CRITICAL"

end Severity

/-- The parts of the library that write records. -/
inductive Channel where
  | registry
  | scripts
  | atoms
  | codec
  | builder
deriving DecidableEq, Repr

/-- The name a channel writes under. -/
def Channel.label : Channel → String
  | .registry => "wirecodec.registry"
  | .scripts => "wirecodec.scripts"
  | .atoms => "wirecodec.atoms"
  | .codec => "wirecodec.codec"
  | .builder => "wirecodec.builder"

/-- A record: where it was written, how much it matters, and its text when it is shown. -/
structure Record where
  channel : Channel
  severity : Severity
  text : Except Fault String

/-- A record that has been shown. -/
structure LogLine where
  channel : Channel
  severity : Severity
  text : String
deriving DecidableEq, Repr

/-- **The line a record is shown as.** -/
def Record.line (r : Record) : Except Fault LogLine := do
  return ⟨r.channel, r.severity, ← r.text⟩

namespace Log

/-- The level a name stands for: the severities, two other words for some, and none. -/
def levelOfName? : String → Option Int
  | "CRITICAL" | "FATAL" => some Severity.critical.rank
  | "ERROR" => some Severity.error.rank
  | "WARNING" | "WARN" => some Severity.warning.rank
  | "INFO" => some Severity.info.rank
  | "DEBUG" => some Severity.debug.rank
  | "NOTSET" => some 0
  | _ => none

/-- The rank from which on a level lets records pass; the level 0 stands for warnings. -/
def threshold (level : Int) : Int := if level = 0 then Severity.warning.rank else level

/-- **A level lets a record pass** when the record ranks at least as high. -/
def passes (level : Int) (r : Record) : Bool := threshold level ≤ r.severity.rank

end Log

end BrowserRemote
