import PullSecretSync.Api.Await
import PullSecretSync.Api.Cluster
import PullSecretSync.Json.Merge
import PullSecretSync.Json.Pointer
import PullSecretSync.Main
import PullSecretSync.Sync.Controller
import PullSecretSync.Sync.Manager
import PullSecretSync.Sync.SecretMap
import PullSecretSync.Sync.Upserts
import PullSecretSync.Sync.Watching
import PullSecretSync.Proofs.Copying
import PullSecretSync.Proofs.Managing
import PullSecretSync.Proofs.Tracking
import PullSecretSync.Proofs.Delivering
import PullSecretSync.Proofs.Presence
import PullSecretSync.Proofs.Accounting
import PullSecretSync.Proofs.Redelivery
import PullSecretSync.Proofs.Settling
import PullSecretSync.Proofs.Restoring
import PullSecretSync.Proofs.Cluster
import PullSecretSync.Proofs.Preservation
import PullSecretSync.Proofs.Quiescence
import PullSecretSync.Proofs.Staleness
import PullSecretSync.Proofs.Serialization
import PullSecretSync.Proofs.Flushing
import PullSecretSync.Proofs.Rounds
import PullSecretSync.Proofs.Confinement
import PullSecretSync.Proofs.Confirmation
import PullSecretSync.Proofs.Parallel
import PullSecretSync.Proofs.Session
import PullSecretSync.Proofs.Secrecy
import PullSecretSync.Proofs.Reporting
import PullSecretSync.Proofs.Gating
import PullSecretSync.Proofs.Abstaining
import PullSecretSync.Proofs.Suspending
import PullSecretSync.Proofs.Recognition
import PullSecretSync.Proofs.Merging
import PullSecretSync.Proofs.Reproduction
import PullSecretSync.Proofs.Site
import PullSecretSync.Proofs.Repetition
import PullSecretSync.Proofs.Transparency
import PullSecretSync.Proofs.Contract
import PullSecretSync.Proofs.Atomicity
import PullSecretSync.Proofs.Refreshing
import PullSecretSync.Proofs.Addressing
import PullSecretSync.Proofs.Base64
import PullSecretSync.Proofs.Documents
import PullSecretSync.Proofs.Refinement
import PullSecretSync.Proofs.Settings
import PullSecretSync.Proofs.Histories
import PullSecretSync.Proofs.Discovery
import PullSecretSync.Proofs.Rereading
import PullSecretSync.Proofs.Counting
import PullSecretSync.Proofs.Waiting
