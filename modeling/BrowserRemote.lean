import BrowserRemote.Bench
import BrowserRemote.CommandTable.History
import BrowserRemote.Css.Reader
import BrowserRemote.Route.Decomposition
import BrowserRemote.Script.Normal
import BrowserRemote.Script.Quoting
import BrowserRemote.Settings.History
import BrowserRemote.Setup.Execution
import BrowserRemote.Setup.Load
import BrowserRemote.Proofs.Adaptation.Atoms
import BrowserRemote.Proofs.Adaptation.Framing
import BrowserRemote.Proofs.Adaptation.Idempotence
import BrowserRemote.Proofs.Adaptation.Scripts
import BrowserRemote.Proofs.Adaptation.Search
import BrowserRemote.Proofs.Atom.Agreement
import BrowserRemote.Proofs.Atom.Answers
import BrowserRemote.Proofs.Atom.Chains
import BrowserRemote.Proofs.Atom.Confinement
import BrowserRemote.Proofs.Bench.Interchange
import BrowserRemote.Proofs.CommandTable.Acceptance
import BrowserRemote.Proofs.CommandTable.Consistency
import BrowserRemote.Proofs.CommandTable.Resolution
import BrowserRemote.Proofs.CommandTable.Snapshots
import BrowserRemote.Proofs.Css.Coincidence
import BrowserRemote.Proofs.Css.QuotedName
import BrowserRemote.Proofs.Css.RoundTrip
import BrowserRemote.Proofs.Dialect.Tables
import BrowserRemote.Proofs.Log.Outcomes
import BrowserRemote.Proofs.Request.AtomCalls
import BrowserRemote.Proofs.Request.AtomFailures
import BrowserRemote.Proofs.Request.AtomUse
import BrowserRemote.Proofs.Request.CommonCommands
import BrowserRemote.Proofs.Request.Encoding
import BrowserRemote.Proofs.Request.PathParameters
import BrowserRemote.Proofs.Request.PlainCommands
import BrowserRemote.Proofs.Request.Planning
import BrowserRemote.Proofs.Request.ScriptArguments
import BrowserRemote.Proofs.Request.ScriptCalls
import BrowserRemote.Proofs.Request.SessionParameter
import BrowserRemote.Proofs.Request.Unambiguous
import BrowserRemote.Proofs.Route.Decomposition
import BrowserRemote.Proofs.Route.Filling
import BrowserRemote.Proofs.Route.Segments
import BrowserRemote.Proofs.Route.Substitution
import BrowserRemote.Proofs.Script.AtomSource
import BrowserRemote.Proofs.Script.Protection
import BrowserRemote.Proofs.Script.WireForm
import BrowserRemote.Proofs.Settings.AtomPrecedence
import BrowserRemote.Proofs.Settings.Latest
import BrowserRemote.Proofs.Setup.Execution
import BrowserRemote.Proofs.Setup.Loading
import BrowserRemote.Proofs.Text.Utf8
import BrowserRemote.Proofs.Value.Faults
