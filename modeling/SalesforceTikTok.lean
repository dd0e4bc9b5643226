import SalesforceTikTok.Concurrency.Invariant
import SalesforceTikTok.Concurrency.Refinement
import SalesforceTikTok.Core.EventFilter
import SalesforceTikTok.Core.FilterExactness
import SalesforceTikTok.Core.Enrichment
import SalesforceTikTok.Core.Batching
import SalesforceTikTok.Core.EventBuilder
import SalesforceTikTok.Core.PhoneNumbers
import SalesforceTikTok.Delivery.Acceptance
import SalesforceTikTok.Delivery.NoLostEvent
import SalesforceTikTok.Delivery.LogFidelity
import SalesforceTikTok.Delivery.AuditTrail
import SalesforceTikTok.Delivery.Recovery
import SalesforceTikTok.Delivery.DedupWindow
import SalesforceTikTok.Delivery.SendExclusion
import SalesforceTikTok.Delivery.Quiescence
import SalesforceTikTok.Delivery.SingleDelivery
import SalesforceTikTok.Delivery.Identity
import SalesforceTikTok.Delivery.EventSource
import SalesforceTikTok.Delivery.Noninterference
import SalesforceTikTok.Delivery.NonRetryable
import SalesforceTikTok.Delivery.Amplification
import SalesforceTikTok.Delivery.Enqueueing
import SalesforceTikTok.Delivery.RateLimit
import SalesforceTikTok.Delivery.RateBound
import SalesforceTikTok.Delivery.TokenBucket
import SalesforceTikTok.Delivery.AcquireTermination
import SalesforceTikTok.Delivery.Verdicts
import SalesforceTikTok.Delivery.SignalScore
import SalesforceTikTok.Delivery.EventIds
import SalesforceTikTok.Delivery.BulkDedup
import SalesforceTikTok.Delivery.Resends
import SalesforceTikTok.Listener.ReplayPosition
import SalesforceTikTok.Listener.LogPrivacy
import SalesforceTikTok.Auth.Revocation
import SalesforceTikTok.Auth.CacheCoherence
import SalesforceTikTok.Auth.Lifetime
import SalesforceTikTok.Auth.Refreshing
import SalesforceTikTok.Auth.Rotation
import SalesforceTikTok.Auth.RefreshReport
import SalesforceTikTok.Auth.RefreshLifetime
import SalesforceTikTok.Auth.GrantStorage
import SalesforceTikTok.EventSet.CacheCoherence
import SalesforceTikTok.EventSet.SingleProvisioning
import SalesforceTikTok.EventSet.Paging
import SalesforceTikTok.Server.Failures
import SalesforceTikTok.Server.StateTokens
import SalesforceTikTok.Server.Authorisation
import SalesforceTikTok.Server.Ownership
import SalesforceTikTok.Server.Selection
import SalesforceTikTok.Server.ErrorClasses
import SalesforceTikTok.Server.CsrfBinding
import SalesforceTikTok.Server.Provisioning
import SalesforceTikTok.Server.LeadStatus
import SalesforceTikTok.Server.Isolation
import SalesforceTikTok.Server.StateTickets
import SalesforceTikTok.EventLog.Transactions
import SalesforceTikTok.Process.Exits
import SalesforceTikTok.Concurrency.Hosting
import SalesforceTikTok.Server.Assembly
import SalesforceTikTok.Server.Composition
import SalesforceTikTok.Server.Sending
import SalesforceTikTok.Server.StoredTokens
