import MirrorECMA.ECMA.Text
import MirrorECMA.ECMA.Json
import MirrorECMA.ECMA.Grammar
import MirrorECMA.ECMA.Tokens
import MirrorECMA.ECMA.Parse
import MirrorECMA.ECMA.ParseExact
import MirrorECMA.ECMA.BigInt
import MirrorECMA.ECMA.Stringify
import MirrorECMA.ECMA.Sort
import MirrorECMA.ECMA.Compact
import MirrorECMA.ECMA.Utf8
import MirrorECMA.ECMA.Integers
import MirrorECMA.ECMA.JsMap
import MirrorECMA.ECMA.CodeUnitOrder
import MirrorECMA.Protocol.Message
import MirrorECMA.Protocol.Walk
import MirrorECMA.Protocol.Encode
import MirrorECMA.Protocol.Value
import MirrorECMA.Protocol.Prettify
import MirrorECMA.Protocol.Walked
import MirrorECMA.Protocol.WellTyped
import MirrorECMA.Protocol.RoundTrip
import MirrorECMA.Transport.Framing
import MirrorECMA.Transport.Chunks
import MirrorECMA.Transport.LineIterator
import MirrorECMA.Transport.FramingRuns
import MirrorECMA.Transport.LineQueue
import MirrorECMA.ModelInterface.StrictJsonExact
import MirrorECMA.ModelInterface.Descriptor
import MirrorECMA.ModelInterface.Canonical
import MirrorECMA.ModelInterface.Decode
import MirrorECMA.ModelInterface.Plain
import MirrorECMA.ModelInterface.Accepted
import MirrorECMA.ModelInterface.AcceptedDescriptor
import MirrorECMA.ModelInterface.NormalForm
import MirrorECMA.ModelInterface.CanonicalText
import MirrorECMA.ModelInterface.Reordered
import MirrorECMA.ModelInterface.OrderInvariance
import MirrorECMA.ModelInterface.CanonicalDescriptor
import MirrorECMA.ModelInterface.DescriptorText
import MirrorECMA.ModelInterface.Digest
import MirrorECMA.ModelInterface.DescriptorIdentity
import MirrorECMA.DescriptorCache.Cache
import MirrorECMA.DescriptorCache.Runs
import MirrorECMA.OpaqueItf.Snapshot
import MirrorECMA.OpaqueItf.Accepted
import MirrorECMA.OpaqueItf.CanonicalText
import MirrorECMA.OpaqueItf.Identity
import MirrorECMA.OpaqueItf.Opaque
import MirrorECMA.DynamicBinding.Codec
import MirrorECMA.DynamicBinding.SameMaps
import MirrorECMA.DynamicBinding.RoundTrip
import MirrorECMA.Machine.Run
import MirrorECMA.DynamicBinding.Binding
import MirrorECMA.DynamicBinding.Synchronous
import MirrorECMA.DynamicBinding.SynchronousRuns
import MirrorECMA.DynamicBinding.Asynchronous
import MirrorECMA.DynamicBinding.AsynchronousRuns
import MirrorECMA.Machine.Throwing
import MirrorECMA.Replay.Evidence
import MirrorECMA.Replay.Tally
import MirrorECMA.Replay.Report
import MirrorECMA.Replay.Execution
import MirrorECMA.Replay.Core
import MirrorECMA.Replay.Agreement
import MirrorECMA.Explore.Session
import MirrorECMA.Explore.SessionRuns
import MirrorECMA.LockStep.Connection
import MirrorECMA.LockStep.ConnectionRuns
import MirrorECMA.Negotiation.Reply
import MirrorECMA.Negotiation.Authorize
import MirrorECMA.Negotiation.Callback
import MirrorECMA.Negotiation.Release
import MirrorECMA.Negotiation.Gate
import MirrorECMA.Compiled.Registration
import MirrorECMA.Compiled.Report
import MirrorECMA.Compiled.Ledger
import MirrorECMA.Compiled.ReportRuns
import MirrorECMA.Replay.EvidenceRuns
import MirrorECMA.Replay.EvidenceCounts
import MirrorECMA.Replay.EvidenceCorpus
import MirrorECMA.Replay.Control
import MirrorECMA.Replay.Controlled
import MirrorECMA.Replay.Heeded
import MirrorECMA.Replay.HeededRuns
import MirrorECMA.Schedule.Data
import MirrorECMA.Schedule.Execution
import MirrorECMA.Schedule.Effects
import MirrorECMA.Schedule.Steps
import MirrorECMA.Schedule.Runs
import MirrorECMA.Schedule.SingleRunner
import MirrorECMA.Schedule.Evidence
import MirrorECMA.Schedule.Receipt
import MirrorECMA.Schedule.Worker
import MirrorECMA.Schedule.Protocol
import MirrorECMA.Schedule.ProtocolRuns
import MirrorECMA.Machine.Interleaving
import MirrorECMA.ECMA.Stringified
import MirrorECMA.ECMA.Measures
import MirrorECMA.Schedule.ParseSchedule
import MirrorECMA.Schedule.ScheduleText
import MirrorECMA.Schedule.Enumeration
import MirrorECMA.Schedule.CanonicalState
import MirrorECMA.Schedule.Explore
import MirrorECMA.ECMA.Alike
import MirrorECMA.Schedule.Stable
import MirrorECMA.Schedule.Inspected
import MirrorECMA.Schedule.Completeness
import MirrorECMA.ECMA.Scan
import MirrorECMA.ECMA.Shape
import MirrorECMA.Reproduction.Platform
import MirrorECMA.Reproduction.Bundle
import MirrorECMA.Reproduction.Validate
import MirrorECMA.ECMA.Coerced
import MirrorECMA.Reproduction.WellTyped
import MirrorECMA.ECMA.Reading
import MirrorECMA.Machine.Race
import MirrorECMA.Mutation.Campaign
import MirrorECMA.Mutation.Evaluate
import MirrorECMA.Mutation.Runner
import MirrorECMA.Machine.History
import MirrorECMA.Mutation.Support
import MirrorECMA.Mutation.Progress
import MirrorECMA.Mutation.Accounting
import MirrorECMA.Mutation.Gating
import MirrorECMA.Mutation.ReadAlike
import MirrorECMA.Reproduction.Encode
import MirrorECMA.Reduction.Reduce
import MirrorECMA.Reduction.Order
import MirrorECMA.Reduction.Searched
import MirrorECMA.Reduction.Sound
import MirrorECMA.Framework.Json
import MirrorECMA.Framework.Canonical
import MirrorECMA.Framework.Identity
import MirrorECMA.Framework.Manifest
import MirrorECMA.Framework.Distribution
import MirrorECMA.Framework.Correspondence
import MirrorECMA.Framework.Catalog
import MirrorECMA.Framework.Preflight
import MirrorECMA.Framework.Resolved
import MirrorECMA.Framework.Installed
import MirrorECMA.Framework.Qualified
import MirrorECMA.Replay.Counts
import MirrorECMA.Replay.CountRuns
import MirrorECMA.ECMA.Nearest
import MirrorECMA.Protocol.Integers
import MirrorECMA.Spec.Dependencies
import MirrorECMA.Spec.Segments
import MirrorECMA.Spec.References
import MirrorECMA.ECMA.FailsOnly
import MirrorECMA.ECMA.ScanCalls
import MirrorECMA.Reproduction.OwnErrors
import MirrorECMA.Schedule.ExactText
import MirrorECMA.ECMA.StableSort
import MirrorECMA.ECMA.NumberFree
import MirrorECMA.Schedule.StateTree
import MirrorECMA.Schedule.StateEquality
import MirrorECMA.DynamicBinding.LiteralValue
import MirrorECMA.DynamicBinding.LiteralIdentity
import MirrorECMA.Schedule.BindingSession
import MirrorECMA.Schedule.BindingReceipts
import MirrorECMA.ECMA.ScanExact
import MirrorECMA.Reproduction.BoundedJson
import MirrorECMA.ECMA.NearestRoundTrip
import MirrorECMA.Protocol.HintText
import MirrorECMA.DynamicBinding.Mismatches
import MirrorECMA.Replay.DeadlineRace
import MirrorECMA.Replay.DeadlineRaceRuns
import MirrorECMA.Suite.ConstructionScope
import MirrorECMA.Suite.ConstructionSteps
import MirrorECMA.Suite.ConstructionRuns
import MirrorECMA.ECMA.Places
import MirrorECMA.Reduction.LeaseTrace
import MirrorECMA.Reduction.LeaseDifferences
import MirrorECMA.Reduction.LeaseEdits
import MirrorECMA.ECMA.SafeTrees
import MirrorECMA.ECMA.OrderedTrees
import MirrorECMA.Framework.CanonicalForm
import MirrorECMA.Corpus.Artifacts
import MirrorECMA.Corpus.ArtifactReader
import MirrorECMA.Corpus.OneSpelling
import MirrorECMA.ModelInterface.Contract
import MirrorECMA.ModelInterface.AcceptedContract
import MirrorECMA.Registration.Request
import MirrorECMA.Registration.RequestRoundTrip
