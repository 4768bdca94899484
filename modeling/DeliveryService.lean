import DeliveryService.Exec
import DeliveryService.Dict
import DeliveryService.Table
import DeliveryService.SuccessorPath
import DeliveryService.SortedBy
import DeliveryService.DropOldest
import DeliveryService.Records
import DeliveryService.InPlace
import DeliveryService.Transaction
import DeliveryService.ReadCommitted
import DeliveryService.Stages
import DeliveryService.Fragment
import DeliveryService.Rely
import DeliveryService.Script
import DeliveryService.Site
import DeliveryService.PyText
import DeliveryService.PyJson
import DeliveryService.Uuid
import DeliveryService.Datetime
import DeliveryService.Access
import DeliveryService.Security
import DeliveryService.Identity
import DeliveryService.Domain
import DeliveryService.Events
import DeliveryService.Commands
import DeliveryService.JsonText
import DeliveryService.Ports
import DeliveryService.InMemoryRepository
import DeliveryService.OrderEffects
import DeliveryService.Audit
import DeliveryService.Idempotency
import DeliveryService.Couriers
import DeliveryService.Schemas
import DeliveryService.Endpoints
import DeliveryService.Staffing
import DeliveryService.ClientWrites
import DeliveryService.RefreshSessions
import DeliveryService.RefreshFamilies
import DeliveryService.SqlRefreshSessions
import DeliveryService.ReuseFinality
import DeliveryService.ReuseRace
import DeliveryService.Database
import DeliveryService.SqlAlchemyRepository
import DeliveryService.SqlSpecs
import DeliveryService.SqlJobs
import DeliveryService.SqlEffects
import DeliveryService.SqlAlone
import DeliveryService.ColumnLimits
import DeliveryService.CourierRelease
import DeliveryService.ConcurrentWrites
import DeliveryService.ConcurrentCreates
import DeliveryService.StatusAudit
import DeliveryService.ClaimAgreement
import DeliveryService.Listing
import DeliveryService.Pages
import DeliveryService.Visibility
import DeliveryService.Authorization
import DeliveryService.Tenancy
import DeliveryService.BusinessRules
import DeliveryService.Lifecycle
import DeliveryService.LifecycleEdits
import DeliveryService.LifecycleSimulation
import DeliveryService.ErrorContract
import DeliveryService.CircuitBreaker
import DeliveryService.CircuitRecovery
import DeliveryService.RouteService
import DeliveryService.ZoneCache
import DeliveryService.RateLimit
import DeliveryService.RetryAfter
import DeliveryService.PyRegex
import DeliveryService.Digests
import DeliveryService.ProofLinks
import DeliveryService.ProofInspection
import DeliveryService.ProofMetadata
import DeliveryService.Csrf
import DeliveryService.SelfDelimiting
import DeliveryService.SignedMessages
import DeliveryService.RequestIdentity
import DeliveryService.Worklist
import DeliveryService.Sqlstate
import DeliveryService.Serializable
import DeliveryService.RedisLease
import DeliveryService.GatherBounded
import DeliveryService.ReleaseManifest
import DeliveryService.Login
import DeliveryService.PyDatetime
import DeliveryService.Tracking
import DeliveryService.SqlTracking
import DeliveryService.TrackingHub
import DeliveryService.TrackingAdmission
import DeliveryService.TrackingSocket
import DeliveryService.DeliveryDatabase
import DeliveryService.TrackingRace
import DeliveryService.HubAccounts
import DeliveryService.HubSharing
import DeliveryService.SseStream
import DeliveryService.TrackingSubscriptions
import DeliveryService.TrackingBus
import DeliveryService.Snapshots
import DeliveryService.Messaging
import DeliveryService.Consumers
import DeliveryService.Webhooks
import DeliveryService.Relay
import DeliveryService.RelayDelivery
import DeliveryService.Notifications
import DeliveryService.ExactlyOnce
import DeliveryService.QueryStrings
import DeliveryService.ProofDownloads
import DeliveryService.Binary64
import DeliveryService.PaymentWebhook
import DeliveryService.Tokens
import DeliveryService.AuthRuns
import DeliveryService.Ddl
import DeliveryService.Migrations
import DeliveryService.OutboxWindow
import DeliveryService.SqlIdentity
import DeliveryService.IdentityAgreement
