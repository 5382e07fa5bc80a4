import ScriptHost.Wire.Direct
import ScriptHost.Session.Numbering
import ScriptHost.Session.Run
import ScriptHost.Bridge.Moment
import ScriptHost.Bridge.Journal
import ScriptHost.Proofs.Bridge.Run
import ScriptHost.Proofs.Bridge.Table
import ScriptHost.Proofs.Wire.Id
import ScriptHost.Proofs.Bridge.Ledger
import ScriptHost.Proofs.Bridge.Resolution
import ScriptHost.Proofs.Bridge.Turns
import ScriptHost.Proofs.Bridge.Waiting
import ScriptHost.Proofs.Bridge.Calls
import ScriptHost.Proofs.Session.Hosts
import ScriptHost.Proofs.Session.Isolation
import ScriptHost.Proofs.Bridge.Custody
import ScriptHost.Proofs.Engine.Command
import ScriptHost.Proofs.Engine.Script
import ScriptHost.Proofs.Bridge.Opening
import ScriptHost.Proofs.Bridge.Teardown
import ScriptHost.Proofs.Bridge.Blocking
import ScriptHost.Proofs.Wire.Posting
import ScriptHost.Proofs.Bridge.HandOff
import ScriptHost.Proofs.Engine.Freshness
import ScriptHost.Proofs.Bridge.Cancellation
import ScriptHost.Proofs.Bridge.Crash
import ScriptHost.Proofs.Bridge.Reordering
import ScriptHost.Proofs.Bridge.Dispositions
import ScriptHost.Proofs.Bridge.Settings
import ScriptHost.Proofs.Engine.Verbatim
import ScriptHost.Proofs.Script.Raising
import ScriptHost.Proofs.Script.Throwing
import ScriptHost.Proofs.Script.Tracing
import ScriptHost.Proofs.Engine.Uncaught
