import EventScripts.Bytes.Utf8
import EventScripts.Number.Numeral
import EventScripts.Json.Reader
import EventScripts.Json.Decode
import EventScripts.Script.Syntax
import EventScripts.Script.Compile
import EventScripts.Script.Value
import EventScripts.Pattern
import EventScripts.Deflate.Container
import EventScripts.Files.Tree
import EventScripts.Files.Request
import EventScripts.Script.Site
import EventScripts.Script.Access
import EventScripts.Script.Evaluation
import EventScripts.Script.Invocation
import EventScripts.Script.Stock
import EventScripts.Dispatch.Token
import EventScripts.Dispatch.Captures
import EventScripts.Dispatch.StyledLine
import EventScripts.Dispatch.Request
import EventScripts.Dispatch.Arguments
import EventScripts.Dispatch.Outcome
import EventScripts.Script.Lookup
import EventScripts.Script.Invoker
import EventScripts.Library.Selection
import EventScripts.Script.Lockdown
import EventScripts.Script.NameIndex
import EventScripts.Settings
import EventScripts.ScriptError
import EventScripts.Host.ErrorLine
import EventScripts.Host.Interface
import EventScripts.Host.Document
import EventScripts.Host.Routines
import EventScripts.Host.Failure
import EventScripts.Host.Surroundings
import EventScripts.Host.Reporter
import EventScripts.Engine.Session
import EventScripts.Engine.Execution
import EventScripts.Engine.Check
import EventScripts.Engine.Lifecycle
import EventScripts.Engine.Dispatch
import EventScripts.Wire.Values
import EventScripts.Wire.Requests
import EventScripts.Wire.Settings
import EventScripts.Wire.Snapshots
import EventScripts.Wire.Sources
import EventScripts.Wire.Reports
import EventScripts.Proofs.MachineRuns
import EventScripts.Proofs.OperationFrames
import EventScripts.Proofs.EngineRuns
import EventScripts.Proofs.Openers
import EventScripts.Proofs.Lookups
import EventScripts.Proofs.SiteCalls
import EventScripts.Proofs.TokenSafety
import EventScripts.Proofs.ProtectedCalls
import EventScripts.Proofs.CallArguments
import EventScripts.Proofs.WireLayout
import EventScripts.Proofs.HostScope
import EventScripts.Proofs.IndexFilling
import EventScripts.Proofs.TableFrames
import EventScripts.Proofs.ListTables
import EventScripts.Proofs.AfterStocking
import EventScripts.Proofs.NativeLockdown
import EventScripts.Proofs.OfferedNames
import EventScripts.Proofs.ErrorLines
import EventScripts.Proofs.FailureRecords
import EventScripts.Proofs.LineAttribution
import EventScripts.Proofs.AppendedFiles
import EventScripts.Proofs.FileRequests
import EventScripts.Proofs.FileRuns
import EventScripts.Proofs.Episodes
import EventScripts.Proofs.CallAccounts
import EventScripts.Proofs.CounterBounds
import EventScripts.Proofs.Reports
import EventScripts.Proofs.UnscopedRuns
import EventScripts.Proofs.FailureRoutes
import EventScripts.Proofs.CaptureTables
import EventScripts.Proofs.SharedIndex
import EventScripts.Proofs.PairedSessions
import EventScripts.Proofs.HostIndependence
import EventScripts.Proofs.SilentLogging
import EventScripts.Proofs.ErrorLog
import EventScripts.Proofs.BuilderCalls
import EventScripts.Proofs.SegmentWalks
import EventScripts.Proofs.Probes
import EventScripts.Proofs.TextBytes
import EventScripts.Proofs.CompletionAgreement
import EventScripts.Proofs.TextOrder
import EventScripts.Proofs.Completion
import EventScripts.Proofs.PayloadReadback
import EventScripts.Proofs.CallResults
import EventScripts.Proofs.TextDispatches
import EventScripts.Proofs.SourceFaults
import EventScripts.Proofs.NativeCalls
import EventScripts.Proofs.UnloadedSources
import EventScripts.Proofs.MatchDescriptions
import EventScripts.Proofs.MatchVisits
import EventScripts.Proofs.BitArithmetic
import EventScripts.Proofs.ProgressArithmetic
import EventScripts.Proofs.CheckedCodes
import EventScripts.Proofs.LibraryOpening
import EventScripts.Proofs.ModuleRequests
import EventScripts.Proofs.LazyPreloads
import EventScripts.Proofs.BlameGrammar
import EventScripts.Proofs.SourceContext
import EventScripts.Proofs.TracedErrors
