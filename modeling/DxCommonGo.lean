import DxCommonGo.AppIdCredentials
import DxCommonGo.AuditedInserts
import DxCommonGo.AutoMapPaths
import DxCommonGo.BreakerHalfOpen
import DxCommonGo.BreakerRecovery
import DxCommonGo.BreakerReference
import DxCommonGo.BreakerRejections
import DxCommonGo.BreakerTrip
import DxCommonGo.BulkPayloads
import DxCommonGo.BulkResends
import DxCommonGo.CacheAgreement
import DxCommonGo.ClientAddresses
import DxCommonGo.ConsumerDiscipline
import DxCommonGo.DatabaseErrors
import DxCommonGo.EnsureIndexRace
import DxCommonGo.EnvelopeAuthenticity
import DxCommonGo.EnvelopeRoundTrip
import DxCommonGo.EsCounts
import DxCommonGo.GetOrLoadCrossing
import DxCommonGo.HealthHandler
import DxCommonGo.IndexMigration
import DxCommonGo.KickedLoops
import DxCommonGo.MutualTls
import DxCommonGo.OutboxDuplicates
import DxCommonGo.OutboxFirsts
import DxCommonGo.OutboxKick
import DxCommonGo.PageOffsets
import DxCommonGo.PageWalks
import DxCommonGo.PanicRecovery
import DxCommonGo.PrefixPolicy
import DxCommonGo.QueryJoin
import DxCommonGo.QueryStatements
import DxCommonGo.RabbitClientClose
import DxCommonGo.RateLimitEndpoints
import DxCommonGo.RealmRoles
import DxCommonGo.RedisLockSafety
import DxCommonGo.ReliablePublisherCalls
import DxCommonGo.RequestEmpties
import DxCommonGo.RequestTemporal
import DxCommonGo.ResolverPaths
import DxCommonGo.RetryRuns
import DxCommonGo.RetryableTx
import DxCommonGo.SearchAfter
import DxCommonGo.SingletonJobs
import DxCommonGo.SoftDeletion
import DxCommonGo.Topology
import DxCommonGo.TransportWaits
import DxCommonGo.TxRetrying
import DxCommonGo.UnreadableBodies
import DxCommonGo.VersionedUpdates
import DxCommonGo.Backoff
import DxCommonGo.MigrationNumbers
import DxCommonGo.MultipartUploads
import DxCommonGo.OutboxPrograms
import DxCommonGo.RedisRateLimit
