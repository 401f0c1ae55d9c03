import Adcp.L1Base.Tx
import Adcp.L1Base.Raises
import Adcp.L1Base.TextLines
import Adcp.L1Base.SqlScript
import Adcp.L1Base.AsciiRecord
import Adcp.L1Base.Table
import Adcp.L1Base.Fencing
import Adcp.L1Base.VersionedLog
import Adcp.L1Base.Script
import Adcp.L1Base.FileSystem
import Adcp.L1Base.Interleaving
import Adcp.L1Base.WriteAheadLog
import Adcp.L1Base.Json
import Adcp.L1Base.JsonRoundTrip
import Adcp.L1Base.JsonAscii
import Adcp.L1Base.Framing
import Adcp.L1Base.Sha256
import Adcp.L2Domain.Basic
import Adcp.L2Domain.States
import Adcp.L2Domain.DurableResult
import Adcp.L2Domain.CandidateVerification
import Adcp.L2Domain.CandidateManifest
import Adcp.L3Store.Schema
import Adcp.L3Store.GlobalWriter
import Adcp.L3Store.WriterClient
import Adcp.L3Store.Migrations
import Adcp.L3Store.StampOrder
import Adcp.L3Store.Datetimes
import Adcp.L3Store.MigrationScripts
import Adcp.L3Store.Statements
import Adcp.L3Store.Executions
import Adcp.L3Store.Records
import Adcp.L3Store.Receipts
import Adcp.L3Store.Rework
import Adcp.L3Store.Slices
import Adcp.L3Store.DeferredBinding
import Adcp.L3Store.Acceptance
import Adcp.L3Store.ArtifactSeal
import Adcp.L3Store.CompletionBinding
import Adcp.L3Store.Evaluations
import Adcp.L3Store.Candidates
import Adcp.L3Store.CandidateSteps
import Adcp.L3Store.Lifecycle
import Adcp.L3Git.Trees
import Adcp.L3Git.Candidate
import Adcp.L4Safety.WriterClock
import Adcp.L3Store.RuntimeIdentity
import Adcp.L4Safety.RuntimeGate
import Adcp.L4Safety.WriterFencing
import Adcp.L4Safety.WriterLog
import Adcp.L4Safety.WriterProtocol
import Adcp.L4Safety.System
import Adcp.L4Safety.CoreSteps
import Adcp.L4Safety.EventLog
import Adcp.L4Safety.PhaseOrder
import Adcp.L4Safety.LeaseFencing
import Adcp.L4Safety.BackupRetention
import Adcp.L4Safety.EvidenceSteps
import Adcp.L4Safety.AcceptanceSoundness
import Adcp.L4Safety.CandidateRuns
import Adcp.L4Safety.ClosureEvidence
import Adcp.L4Safety.TerminalStates
import Adcp.L4Safety.SliceBinding
import Adcp.L4Safety.VerdictAuthenticity
import Adcp.L4Safety.ControlSteps
import Adcp.L4Safety.SliceEvents
import Adcp.L4Safety.AuthorityMachine
import Adcp.L4Safety.ReceiptLog
import Adcp.L4Safety.BindingAtomicity
import Adcp.L4Safety.CandidateContent
import Adcp.L4Safety.CurrentCandidate
import Adcp.L4Safety.ApprovalLifecycle
import Adcp.L5Deploy.ControlledDeployment
import Adcp.L5Deploy.DeploymentSafety
import Adcp.L5Deploy.DeploymentOnce
import Adcp.L1Base.Method
import Adcp.L5Migration.Orchestrator
import Adcp.L5Migration.OrchestratorRun
import Adcp.L5Migration.OrchestratorBody
import Adcp.L5Migration.OrchestratorSafety
import Adcp.L5Migration.Schema10Backup
import Adcp.L5Migration.Schema10BackupSafety
import Adcp.L5Migration.AtomicWrite
import Adcp.L5Migration.AtomicWriteSafety
import Adcp.L5Migration.StableWriters
import Adcp.L5Migration.StableWritersSafety
import Adcp.L5Deploy.RunnerCalls
import Adcp.L5Cutover.CleanerCutover
import Adcp.L5Cutover.CutoverSafety
import Adcp.L5Cutover.RuntimePort
import Adcp.L5Cutover.PrepareSafety
import Adcp.L5Cutover.WorkerCredential
import Adcp.L5Cutover.WorkerCredentialSafety
import Adcp.L5Postgres.Pgpass
import Adcp.L1Base.KeyedRows
import Adcp.L5Postgres.Bootstrap
import Adcp.L1Base.Redaction
import Adcp.L5Postgres.Sanitize
import Adcp.L1Base.Transcript
import Adcp.L1Base.Polling
import Adcp.L1Base.Retention
import Adcp.L1Base.PyText
import Adcp.L1Base.PyJson
import Adcp.L1Base.PyJsonText
import Adcp.L5Postgres.EffectSurface
import Adcp.L2Domain.Writers
import Adcp.L5Migration.StableWritersBound
import Adcp.L1Base.Utf8Text
import Adcp.L1Base.PyValue
import Adcp.L2Domain.CanonicalJson
import Adcp.L2Domain.CanonicalBytes
import Adcp.L1Base.SortedBy
import Adcp.L2Domain.EvidenceManifest
import Adcp.L2Domain.VerificationPayload
import Adcp.L1Base.Yields
import Adcp.L5Migration.TerminalEvidence
import Adcp.L5Migration.TerminalSerializer
import Adcp.L5Deploy.AcquireWait
import Adcp.L5Runner.RunCodex
import Adcp.L5Runner.RunCodexSafety
import Adcp.L1Base.ConnectionText
import Adcp.L5Postgres.SecretReference
import Adcp.L5Postgres.ReferenceSafety
import Adcp.L1Base.OnceOnly
import Adcp.L3Store.OperationKeys
import Adcp.L4Safety.SpentKeys
import Adcp.L4Safety.StateEdges
import Adcp.L4Safety.ReworkBudget
import Adcp.L4Safety.GuardedStore
import Adcp.L4Safety.ApprovalFreshness
import Adcp.L5Migration.TerminalBounds
import Adcp.L5Migration.TerminalRecord
import Adcp.L4Safety.MigrationAtomicity
