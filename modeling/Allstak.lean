import Allstak.Library.Machine
import Allstak.Library.OrderedMap
import Allstak.Library.Regex
import Allstak.Text
import Allstak.Json
import Allstak.Protocol
import Allstak.Scrub
import Allstak.ScrubRedaction
import Allstak.Envelope
import Allstak.Scope
import Allstak.Client
import Allstak.ClientRedaction
import Allstak.Transport.RateLimiter
import Allstak.Transport.Deliver
import Allstak.Transport.Spool
import Allstak.Transport.System
import Allstak.Transport.Moves
import Allstak.Library.Pool
import Allstak.Transport.Custody
import Allstak.Transport.Ledger
import Allstak.Transport.Closing
import Allstak.Transport.Conservation
import Allstak.Transport.Flush
import Allstak.Transport.DropAccounting
import Allstak.Transport.RetryAfter
import Allstak.Session
import Allstak.Hub
import Allstak.SessionPairing
import Allstak.Library.Lock
import Allstak.HubLock
import Allstak.SharedScope
import Allstak.Propagation
import Allstak.Middleware
import Allstak.SessionCrash
import Allstak.RequestThreads
import Allstak.RequestIsolation
import Allstak.LayerAlone
import Allstak.Transport.QueueGauge
import Allstak.Transport.RateLimits
import Allstak.Transport.SpoolRoundTrip
import Allstak.Transport.Stepwise
import Allstak.Library.Retention
import Allstak.Transport.SpoolOrder
import Allstak.ClientLedger
import Allstak.Library.Ring
import Allstak.BreadcrumbCap
import Allstak.SessionSummary
import Allstak.SessionSections
import Allstak.SessionMarking
import Allstak.Outbound
import Allstak.TraceChain
import Allstak.Transport.Drain
import Allstak.Transport.SharedSpool
import Allstak.Library.Suffix
import Allstak.Transport.Eviction
import Allstak.Transport.PersistReport
import Allstak.Transport.DeliverReference
import Allstak.Transport.Replay
import Allstak.ScrubFrame
import Allstak.WireSchema
import Allstak.HookEvent
import Allstak.Library.RegexSearch
import Allstak.ScrubGuard
import Allstak.Db
import Allstak.QueryFingerprint
import Allstak.Library.RegexContext
import Allstak.Library.RegexParts
import Allstak.Library.RegexEnclosed
import Allstak.ScrubPasses
import Allstak.HeaderGrammar
import Allstak.Stamping
import Allstak.Library.Transducer
import Allstak.QueryScanner
import Allstak.QueryTemplates
import Allstak.QueryCanonical
import Allstak.QueryDigits
import Allstak.ErrorLevel
import Allstak.Sqlx
import Allstak.Nesting
import Allstak.Restoration
import Allstak.ScopeFrame
import Allstak.MiddlewareAgreement
import Allstak.OneTrace
import Allstak.Performance
import Allstak.SpanForest
import Allstak.TracingLayer
import Allstak.TracingFields
import Allstak.TracingSpans
import Allstak.TracingTrail
import Allstak.EventBuilding
import Allstak.PanicHook
import Allstak.PublicApi
import Allstak.Transport.Diagnostics
import Allstak.Diagnostics
import Allstak.Transport.Restarts
import Allstak.Library.FoldHash
import Allstak.Transport.SpoolDirectory
import Allstak.Sampling
import Allstak.SqlxLayer
import Allstak.Library.Settling
import Allstak.Transport.Quiescence
import Allstak.Transport.Ordering
import Allstak.Library.Journal
import Allstak.Handing
import Allstak.Transport.Provenance
import Allstak.Confidential
import Allstak.OutboundCalls
import Allstak.InboundRequests
import Allstak.ScrubCount
