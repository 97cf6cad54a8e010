import ConsumerEngine.Core.Freshness
import ConsumerEngine.Core.Records
import ConsumerEngine.Execution.ReaderPool
import ConsumerEngine.Execution.Timestamps
import ConsumerEngine.Execution.WorkerRefresh
import ConsumerEngine.Foundation.Effect
import ConsumerEngine.Foundation.FirstPerKey
import ConsumerEngine.Foundation.KeyedSets
import ConsumerEngine.Foundation.Newest
import ConsumerEngine.Foundation.SortedMap
import ConsumerEngine.Foundation.TopK
import ConsumerEngine.Ingestion.AcknowledgementOrder
import ConsumerEngine.Ingestion.AppendOnly
import ConsumerEngine.Ingestion.CadenceBound
import ConsumerEngine.Ingestion.CdcPump
import ConsumerEngine.Ingestion.CdcReplay
import ConsumerEngine.Ingestion.CdcResume
import ConsumerEngine.Ingestion.DatasetAliasing
import ConsumerEngine.Ingestion.DebeziumKeys
import ConsumerEngine.Ingestion.GracefulStop
import ConsumerEngine.Ingestion.PendingBuffer
import ConsumerEngine.Ingestion.Producers
import ConsumerEngine.Ingress.Audience
import ConsumerEngine.Ingress.Auth
import ConsumerEngine.Ingress.CatalogEdits
import ConsumerEngine.Ingress.CatalogVersions
import ConsumerEngine.Ingress.Cataloguing
import ConsumerEngine.Ingress.Disclosures
import ConsumerEngine.Ingress.Jobs
import ConsumerEngine.Ingress.Naming
import ConsumerEngine.Ingress.Presign
import ConsumerEngine.Ingress.Promises
import ConsumerEngine.Ingress.Queries
import ConsumerEngine.Ingress.Readback
import ConsumerEngine.Ingress.Server
import ConsumerEngine.Ingress.Suppression
import ConsumerEngine.Ingress.SuppressionLoop
import ConsumerEngine.Query.Activity
import ConsumerEngine.Query.Agreement
import ConsumerEngine.Query.Answers
import ConsumerEngine.Query.Characterized
import ConsumerEngine.Query.Completeness
import ConsumerEngine.Query.Conditions
import ConsumerEngine.Query.CutOffs
import ConsumerEngine.Query.Database
import ConsumerEngine.Query.Dependence
import ConsumerEngine.Query.Enforcement
import ConsumerEngine.Query.Exclusion
import ConsumerEngine.Query.FeaturePaths
import ConsumerEngine.Query.FeatureViews
import ConsumerEngine.Query.Figures
import ConsumerEngine.Query.Isolation
import ConsumerEngine.Query.LiteralIndependence
import ConsumerEngine.Query.Materialization
import ConsumerEngine.Query.Meaning
import ConsumerEngine.Query.Metrics
import ConsumerEngine.Query.Pivots
import ConsumerEngine.Query.PlainEngine
import ConsumerEngine.Query.PointInTime
import ConsumerEngine.Query.Positions
import ConsumerEngine.Query.Preservation
import ConsumerEngine.Query.Probes
import ConsumerEngine.Query.Profiles
import ConsumerEngine.Query.SnapshotPhrases
import ConsumerEngine.Query.SnapshotReads
import ConsumerEngine.Query.Staleness
import ConsumerEngine.Query.SurvivorLimit
import ConsumerEngine.Query.Wire
import ConsumerEngine.Semantic.Cells
import ConsumerEngine.Semantic.Redaction
import ConsumerEngine.Semantic.Retrieval
import ConsumerEngine.Semantic.Samples
import ConsumerEngine.Semantic.Versions
import ConsumerEngine.Sql.Literals
import ConsumerEngine.Sql.Selects
import ConsumerEngine.Storage.Announcements
import ConsumerEngine.Storage.Atomicity
import ConsumerEngine.Storage.FeatureKeys
import ConsumerEngine.Storage.Generations
import ConsumerEngine.Storage.Parameters
import ConsumerEngine.Storage.PathLiterals
import ConsumerEngine.Storage.Reversals
import ConsumerEngine.Storage.SequentialUpserts
import ConsumerEngine.Storage.Wording
