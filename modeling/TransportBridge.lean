import TransportBridge.Bridge.Liveness
import TransportBridge.Conformance.Suites
import TransportBridge.Drill.Attachment
import TransportBridge.Drill.Buffer
import TransportBridge.Proofs.Schedule
import TransportBridge.Proofs.Teardown
import TransportBridge.Session.Report
import TransportBridge.Proofs.Undelivered
import TransportBridge.Proofs.SideBySide
import TransportBridge.Proofs.Attained
import TransportBridge.Proofs.Redelivery
import TransportBridge.Proofs.ClosePlacement
import TransportBridge.Proofs.Rejections
import TransportBridge.Proofs.Bookkeeping
import TransportBridge.Proofs.EngineCalls
import TransportBridge.Proofs.CallLedger
import TransportBridge.Proofs.StateOrder
import TransportBridge.Proofs.BufferRelease
import TransportBridge.Proofs.InStep
import TransportBridge.Proofs.Likeness
import TransportBridge.Proofs.Accord
import TransportBridge.Proofs.AccordCalls
import TransportBridge.Proofs.Attachments
import TransportBridge.Proofs.BareWorlds
import TransportBridge.Proofs.ZeroCopy
import TransportBridge.Proofs.Compartments
import TransportBridge.Proofs.Isolation
import TransportBridge.Proofs.Unwinding
import TransportBridge.Proofs.Unstranded
import TransportBridge.Proofs.ReceiveAccount
import TransportBridge.Proofs.ReleaseHooks
import TransportBridge.Proofs.Scenes
import TransportBridge.Proofs.WellBehaved
import TransportBridge.Proofs.HostFrames
import TransportBridge.Proofs.HostMoves
import TransportBridge.Proofs.Tapes
import TransportBridge.Proofs.ExactStreams
import TransportBridge.Proofs.Rebuffs
import TransportBridge.Proofs.Collisions
import TransportBridge.Proofs.WriteWindow
import TransportBridge.Proofs.Backpressure
import TransportBridge.Proofs.Nesting
import TransportBridge.Proofs.Rendezvous
import TransportBridge.Proofs.Openings
import TransportBridge.Proofs.Decoding
import TransportBridge.Proofs.EchoedClose
import TransportBridge.Proofs.Adoption
import TransportBridge.Proofs.OrderCheck
import TransportBridge.Proofs.WeakTargets
import TransportBridge.Proofs.OpeningRace
