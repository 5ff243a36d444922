import NimbusMesh.Cache.Residency
import NimbusMesh.Cache.Visibility
import NimbusMesh.ControlPlane.Service
import NimbusMesh.Scheduler.Slots
import NimbusMesh.ControlPlane.Steps
import NimbusMesh.ControlPlane.Queue
import NimbusMesh.ControlPlane.Availability
import NimbusMesh.Cache.Persistence
import NimbusMesh.Cache.Reservation
import NimbusMesh.ControlPlane.Memory
import NimbusMesh.ControlPlane.Overcommit
import NimbusMesh.Cache.Hydration
import NimbusMesh.Foundation.Simulation
import NimbusMesh.Metrics
import NimbusMesh.Simulators.Engine
import NimbusMesh.Cache.Agreement
import NimbusMesh.ControlPlane.Agreement
import NimbusMesh.Simulators.Repeatability
import NimbusMesh.Cache.Representation
import NimbusMesh.Cache.Isolation
import NimbusMesh.Cache.Sharing
import NimbusMesh.ControlPlane.Outages
import NimbusMesh.Workload.Generator
import NimbusMesh.Workload.Arrivals
import NimbusMesh.Foundation.Ranking
import NimbusMesh.Policies.Fairness
import NimbusMesh.ControlPlane.Counterpart
import NimbusMesh.Simulators.Fairness
import NimbusMesh.Topology.Routes
import NimbusMesh.ControlPlane.Network
import NimbusMesh.ControlPlane.Records
import NimbusMesh.ControlPlane.Queries
import NimbusMesh.ControlPlane.Placements
import NimbusMesh.ControlPlane.Estimates
import NimbusMesh.Simulators.Exactness
import NimbusMesh.Foundation.Paths
import NimbusMesh.Topology.ShortestPath
import NimbusMesh.Cache.Eviction
import NimbusMesh.ControlPlane.Attribution
import NimbusMesh.Policies.Selectors
import NimbusMesh.ControlPlane.Failures
import NimbusMesh.Simulators.Conservation
import NimbusMesh.ControlPlane.Spreading
import NimbusMesh.Pipeline.Normalizers
import NimbusMesh.Pipeline.Replay
import NimbusMesh.Pipeline.Reproducibility
import NimbusMesh.Foundation.OrderStatistics
import NimbusMesh.Metrics.Quantiles
import NimbusMesh.ControlPlane.Rewards
import NimbusMesh.Scheduler.Anomalies
import NimbusMesh.Cache.Recording
import NimbusMesh.Cache.Scoring
import NimbusMesh.ControlPlane.Credits
import NimbusMesh.ControlPlane.Domination
import NimbusMesh.Topology.Probe
import NimbusMesh.Topology.Layout
import NimbusMesh.Topology.RoundTrip
import NimbusMesh.Topology.Links
import NimbusMesh.Foundation.PairSums
import NimbusMesh.Metrics.Jain
import NimbusMesh.Backends.Latency
import NimbusMesh.Foundation.Rotation
import NimbusMesh.Policies.RoundRobin
import NimbusMesh.ControlPlane.Penalty
import NimbusMesh.Cache.Documents
import NimbusMesh.Scheduler.Bookkeeping
import NimbusMesh.Cache.Restart
import NimbusMesh.Foundation.Launch
import NimbusMesh.Policies.Kernels
import NimbusMesh.Simulators.UnitCost
import NimbusMesh.Foundation.Literals
import NimbusMesh.Storage.JsonText
import NimbusMesh.Storage.RedisText
import NimbusMesh.Cache.Texts
import NimbusMesh.Foundation.Csv
import NimbusMesh.Pipeline.TraceText
import NimbusMesh.Foundation.Footprints
import NimbusMesh.Pipeline.Jobs
import NimbusMesh.Workload.Sampling
import NimbusMesh.Workload.Sessions
import NimbusMesh.ControlPlane.Operation
import NimbusMesh.Simulators.Completion
import NimbusMesh.ControlPlane.Api
import NimbusMesh.ControlPlane.Backlog
import NimbusMesh.Simulators.Ranges
import NimbusMesh.Foundation.Tasks
import NimbusMesh.Simulators.Sweeps
import NimbusMesh.Simulators.Exports
import NimbusMesh.Simulators.Logs
import NimbusMesh.Cache.Copies
import NimbusMesh.Foundation.Doubles
import NimbusMesh.Cache.InDoubles
