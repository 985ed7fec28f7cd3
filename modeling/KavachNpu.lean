import KavachNpu.Proofs.VerdictCodec
import KavachNpu.Proofs.BrokerGates
import KavachNpu.Proofs.ReplaySafety
import KavachNpu.Proofs.RejectedCalls
import KavachNpu.Proofs.DispatchRoutes
import KavachNpu.Proofs.LiveLoopReplay
import KavachNpu.Proofs.AllowlistBinding
import KavachNpu.Proofs.GuestFrameCodec
import KavachNpu.Proofs.Correlation
import KavachNpu.Proofs.ClockHistory
import KavachNpu.Proofs.CorrelatorHistory
import KavachNpu.Proofs.ModelLoading
import KavachNpu.Proofs.TripwireWindow
import KavachNpu.Proofs.HeadOne
import KavachNpu.Proofs.StrideEncryption
import KavachNpu.Proofs.TripwireBuckets
import KavachNpu.Proofs.ClockRange
import KavachNpu.Proofs.GuestSequence
import KavachNpu.Proofs.QuarantineRules
import KavachNpu.Proofs.BeaconFlows
import KavachNpu.Proofs.SignedBundle
import KavachNpu.Proofs.OnnxBuilders
import KavachNpu.Proofs.ReferenceModel
import KavachNpu.Proofs.TripwireEvidence
import KavachNpu.Proofs.EvidenceDigests
import KavachNpu.Proofs.BeaconJitter
import KavachNpu.Proofs.EventSequence
import KavachNpu.Proofs.BundleConfinement
import KavachNpu.Proofs.GuestPaths
import KavachNpu.Proofs.Base64Grammar
import KavachNpu.Proofs.WriterCalls
import KavachNpu.Proofs.SentinelRuns
import KavachNpu.Proofs.ConfigLoading
import KavachNpu.Proofs.Quantization
import KavachNpu.Proofs.BlockEntropy
import KavachNpu.Proofs.SuspensionFloor
import KavachNpu.Proofs.HeadFeatures
import KavachNpu.Proofs.HeadAlerts
import KavachNpu.Proofs.BeaconAlerts
import KavachNpu.Proofs.UnfedDaemon
import KavachNpu.Proofs.LinkRuns
import KavachNpu.Proofs.LinkAttribution
import KavachNpu.Proofs.StubModel
import KavachNpu.Proofs.KeyFiles
import KavachNpu.Proofs.PackHistory
import KavachNpu.Proofs.DevBundle
