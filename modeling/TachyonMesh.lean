import TachyonMesh.Host.RoutePermits
import TachyonMesh.Authn.Isolation
import TachyonMesh.Authn.Registration
import TachyonMesh.Authn.DisabledAccount
import TachyonMesh.Authn.Privilege
import TachyonMesh.Dispatch.Gates
import TachyonMesh.ComponentRegistry.Reload
import TachyonMesh.ModelBroker.CrashSafety
import TachyonMesh.ModelBroker.LockExclusion
import TachyonMesh.Dispatch.CanaryPhases
import TachyonMesh.Manifest.Updates
import TachyonMesh.Dispatch.Minting
import TachyonMesh.Limiter.Enforcement
import TachyonMesh.Limiter.Convergence
import TachyonMesh.Manifest.Dependencies
import TachyonMesh.Volumes.TempDirs
import TachyonMesh.Volumes.Waiters
import TachyonMesh.Volumes.Leases
import TachyonMesh.Admission.Singletons
import TachyonMesh.Admission.DrainBackups
import TachyonMesh.Admission.Election
import TachyonMesh.Dispatch.Registry
import TachyonMesh.Volumes.Sealing
import TachyonMesh.Volumes.Expiry
import TachyonMesh.Outbox.Append
import TachyonMesh.Outbox.Scopes
import TachyonMesh.Store.Graph
import TachyonMesh.Admission.SlotQueue
import TachyonMesh.Store.Eviction
import TachyonMesh.Streams.Backpressure
import TachyonMesh.Streams.Stalls
import TachyonMesh.Dispatch.Buffer
import TachyonMesh.Host.BackgroundTicks
import TachyonMesh.Outbox.Metering
import TachyonMesh.Host.EngineCaches
import TachyonMesh.Host.Counters
import TachyonMesh.Volumes.S3Locks
import TachyonMesh.Volumes.Sweep
import TachyonMesh.Authn.Overlaps
import TachyonMesh.Authz.DecisionCache
import TachyonMesh.MeshOverlay.ConfigPull
import TachyonMesh.Dispatch.Recovery
import TachyonMesh.Dispatch.Secrets
import TachyonMesh.Dispatch.Steering
