import MessageProxy.Bench.Action
import MessageProxy.Bench.Bridge
import MessageProxy.Bench.Fixture
import MessageProxy.Bench.Platform
import MessageProxy.Bench.Pool
import MessageProxy.Bench.Reply
import MessageProxy.Bench.Run
import MessageProxy.Bench.Script
import MessageProxy.Bench.Step
import MessageProxy.Bytes
import MessageProxy.Call
import MessageProxy.Channel.Capability
import MessageProxy.Channel.Id
import MessageProxy.Channel.Info
import MessageProxy.Config.Basic
import MessageProxy.Config.Descriptor
import MessageProxy.Delivery
import MessageProxy.Endpoint.Attributes
import MessageProxy.Endpoint.Basic
import MessageProxy.Endpoint.Directory
import MessageProxy.Endpoint.Lifecycle
import MessageProxy.Endpoint.Messages
import MessageProxy.Fault
import MessageProxy.Forwarding.Exchange
import MessageProxy.Forwarding.Loop
import MessageProxy.Forwarding.Message
import MessageProxy.Forwarding.Notification
import MessageProxy.Frame.AgentStatus
import MessageProxy.Frame.Codec
import MessageProxy.Frame.Header
import MessageProxy.Frame.Response
import MessageProxy.Frame.Token
import MessageProxy.Heap
import MessageProxy.Json.Basic
import MessageProxy.Json.Decode
import MessageProxy.Json.Reader
import MessageProxy.Json.Token
import MessageProxy.Memory
import MessageProxy.Notice
import MessageProxy.Peer
import MessageProxy.Proofs.Action
import MessageProxy.Proofs.Arrival
import MessageProxy.Proofs.Blind
import MessageProxy.Proofs.Delivery
import MessageProxy.Proofs.Endpoint.Alone
import MessageProxy.Proofs.Endpoint.Attempt
import MessageProxy.Proofs.Endpoint.Bounds
import MessageProxy.Proofs.Endpoint.Effect
import MessageProxy.Proofs.Endpoint.Failure
import MessageProxy.Proofs.Endpoint.Lifecycle
import MessageProxy.Proofs.Endpoint.Messages
import MessageProxy.Proofs.Endpoint.Opening
import MessageProxy.Proofs.Endpoint.Operation
import MessageProxy.Proofs.Endpoint.Pages
import MessageProxy.Proofs.Endpoint.Progress
import MessageProxy.Proofs.Endpoint.Skipping
import MessageProxy.Proofs.Endpoint.Traffic
import MessageProxy.Proofs.Endpoint.Transaction
import MessageProxy.Proofs.Endpoint.Turn
import MessageProxy.Proofs.Endpoint.Untrusted
import MessageProxy.Proofs.Endpoint.Words
import MessageProxy.Proofs.Envelope
import MessageProxy.Proofs.Fleet
import MessageProxy.Proofs.Forwarding.Arming
import MessageProxy.Proofs.Forwarding.Exchange
import MessageProxy.Proofs.Forwarding.Handshake
import MessageProxy.Proofs.Forwarding.Message
import MessageProxy.Proofs.Forwarding.Ordering
import MessageProxy.Proofs.Forwarding.Queue
import MessageProxy.Proofs.Forwarding.Replies
import MessageProxy.Proofs.Forwarding.Round
import MessageProxy.Proofs.Frame.ByteOrder
import MessageProxy.Proofs.Frame.Codec
import MessageProxy.Proofs.Frame.Fields
import MessageProxy.Proofs.Heap
import MessageProxy.Proofs.History
import MessageProxy.Proofs.Holder
import MessageProxy.Proofs.Ledger
import MessageProxy.Proofs.Ras.Action
import MessageProxy.Proofs.Ras.Agreement
import MessageProxy.Proofs.Ras.Arrival
import MessageProxy.Proofs.Ras.Enveloped
import MessageProxy.Proofs.Ras.Establish
import MessageProxy.Proofs.Ras.Kept
import MessageProxy.Proofs.Ras.Move
import MessageProxy.Proofs.Ras.Query
import MessageProxy.Proofs.Ras.Replies
import MessageProxy.Proofs.Ras.Resume
import MessageProxy.Proofs.Ras.Session
import MessageProxy.Proofs.Ras.Shared
import MessageProxy.Proofs.Ras.Sources
import MessageProxy.Proofs.Ras.Tokens
import MessageProxy.Proofs.Remote.Attributes
import MessageProxy.Proofs.Remote.Blind
import MessageProxy.Proofs.Remote.Bounds
import MessageProxy.Proofs.Remote.Connection
import MessageProxy.Proofs.Remote.Directory
import MessageProxy.Proofs.Remote.Exchange
import MessageProxy.Proofs.Remote.Failure
import MessageProxy.Proofs.Remote.Messages
import MessageProxy.Proofs.Remote.Opening
import MessageProxy.Proofs.Remote.Reaction
import MessageProxy.Proofs.Remote.Registration
import MessageProxy.Proofs.Remote.Search
import MessageProxy.Proofs.Remote.Secrecy
import MessageProxy.Proofs.Remote.Sharing
import MessageProxy.Proofs.Remote.Walk
import MessageProxy.Ras.Client
import MessageProxy.Ras.Reply
import MessageProxy.Ras.Stage
import MessageProxy.Refusal
import MessageProxy.Remote.Basic
import MessageProxy.Remote.Respond
import MessageProxy.SoftwareEvent
import MessageProxy.Status
import MessageProxy.Supervisor
import MessageProxy.Text
import MessageProxy.World
