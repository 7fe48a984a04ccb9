import Twolk.Lib.JsMap
import Twolk.Lib.Machine
import Twolk.Lib.LiveSet
import Twolk.Lib.Checks
import Twolk.Lib.JsNumber
import Twolk.Lib.Cyclic
import Twolk.Lib.EventLoop
import Twolk.Domain
import Twolk.Coordinator.ProcessCounterIdGenerator
import Twolk.Coordinator.State
import Twolk.Coordinator.RouterAllocator
import Twolk.Coordinator.TransportAllocator
import Twolk.Coordinator.SpaceService
import Twolk.Coordinator.MemberService
import Twolk.Coordinator.ChannelPreAllocator
import Twolk.Coordinator.SpaceUpdateDispatcher
import Twolk.Coordinator.Step
import Twolk.Coordinator.Allocation
import Twolk.Coordinator.Frame
import Twolk.Coordinator.Effects
import Twolk.Coordinator.Routers
import Twolk.Coordinator.Lifecycle
import Twolk.Coordinator.Ended
import Twolk.Coordinator.PrimaryRouter
import Twolk.Coordinator.Members
import Twolk.Coordinator.Subscriptions
import Twolk.Coordinator.Transports
import Twolk.Coordinator.Mesh
import Twolk.Coordinator.Duplicates
import Twolk.Coordinator.Published
import Twolk.Coordinator.Forwarding
import Twolk.Coordinator.Failures
import Twolk.Coordinator.Turns
import Twolk.Coordinator.Answers
import Twolk.Coordinator.Nacks
import Twolk.Coordinator.Handshakes
import Twolk.Coordinator.Allocated
import Twolk.Coordinator.Announcements
import Twolk.Coordinator.Traces
import Twolk.Coordinator.Sources
import Twolk.Coordinator.Desertion
import Twolk.Worker.SfuWorker
import Twolk.Worker.Setup
import Twolk.Worker.Buffering
import Twolk.Worker.Provenance
import Twolk.Media.Cluster
import Twolk.Media.Registry
import Twolk.Media.Agreement
import Twolk.Media.Consumes
import Twolk.Media.Provenance
import Twolk.Signaling.Server
import Twolk.Signaling.Session
import Twolk.Signaling.Callbacks
import Twolk.Signaling.System
import Twolk.Signaling.Steps
import Twolk.Signaling.Moves
import Twolk.Signaling.Points
import Twolk.Signaling.Channels
import Twolk.Signaling.Owners
import Twolk.Signaling.Mirrors
import Twolk.Signaling.Integrity
import Twolk.Signaling.Connected
import Twolk.Http.FrontendFacingHttpServer
import Twolk.Web.SignalingSocket
import Twolk.Web.Space
import Twolk.Web.Client
import Twolk.Web.Snapshots
import Twolk.Web.Deferred
import Twolk.Web.Readiness
import Twolk.Web.Acks
import Twolk.Web.Transport
import Twolk.Web.Handshake
import Twolk.Web.Tracks
import Twolk.Web.MemberEvents
import Twolk.Web.Teardown
import Twolk.Signaling.ClientView
import Twolk.Signaling.Presence
import Twolk.Signaling.Clients
import Twolk.Signaling.Convergence
import Twolk.Signaling.Microtasks
import Twolk.Signaling.Params
import Twolk.Signaling.Deliveries
import Twolk.Signaling.Ghosts
import Twolk.Signaling.Lifetimes
import Twolk.Signaling.Outcomes
import Twolk.Signaling.Nacks
import Twolk.Signaling.Isolation
import Twolk.Signaling.Scopes
import Twolk.Signaling.Correlation
import Twolk.Bus.InProcessBus
import Twolk.App.Config
import Twolk.App.Schema
import Twolk.App.Faults
import Twolk.App.Start
import Twolk.Web.Access
import Twolk.Web.Joining
