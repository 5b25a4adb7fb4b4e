import Relaycast.Delivery.Capacity
import Relaycast.Delivery.Lifecycle
import Relaycast.Delivery.MailboxDepth
import Relaycast.Delivery.ReplayDrain
import Relaycast.Delivery.ReplayTriggers
import Relaycast.Delivery.ReplayVisibility
import Relaycast.Invocation.Reservations
import Relaycast.Invocation.Senders
import Relaycast.A2a.Fencing
import Relaycast.Dm.Identity
import Relaycast.Dm.Address
import Relaycast.Observer.Stream
import Relaycast.Channel.Reachability
import Relaycast.Credential.Upgrade
import Relaycast.TaskInvocation.Fencing
import Relaycast.Workspace.KeyedCreate
import Relaycast.Workspace.MetadataPatches
import Relaycast.Inbound.ReceivedOnce
import Relaycast.Presence.Agreement
import Relaycast.Realtime.Readiness
import Relaycast.SessionEvent.Effects
import Relaycast.Delivery.SequenceHighWater
import Relaycast.Liveness.Recovery
import Relaycast.Enrollment.KeyedRotation
import Relaycast.Enrollment.ServerOwnedTags
import Relaycast.Relayfile.Binding
import Relaycast.Actor.Alarm
import Relaycast.Actor.Background
import Relaycast.React.ReplaySafe
import Relaycast.Routing.CircuitBreaker
import Relaycast.Dm.PairOnly
import Relaycast.Sdk.SocketOwnership
import Relaycast.Sdk.ProviderLifecycle
import Relaycast.Directory.RatingSummary
import Relaycast.Directory.SearchCompleteness
import Relaycast.Fleet.AggregatesAgree
import Relaycast.NodeList.PublicNodes
import Relaycast.Sdk.CasingRoundTrip
import Relaycast.Ssrf.GlobalAddress
import Relaycast.Credential.Typos
import Relaycast.Credential.Redaction
import Relaycast.Relayfile.GlobFastPaths
import Relaycast.Redrive.Traversal
import Relaycast.Snowflake.Order
import Relaycast.Inbox.LatestMessage
import Relaycast.Sdk.InvokeAnswers
import Relaycast.Script.CanonicalJson
import Relaycast.Inbox.MentionScan
import Relaycast.EventLog.Batches
import Relaycast.EventLog.Paging
import Relaycast.Webhook.Requests
import Relaycast.Grant.Reconciled
import Relaycast.LongPoll.Remembered
import Relaycast.Idempotency.Exclusion
import Relaycast.Cleanup.Sweeps
