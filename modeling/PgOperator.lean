import PgOperator.Api.Client
import PgOperator.Api.Server
import PgOperator.Api.Transport
import PgOperator.Api.Uri
import PgOperator.Controller
import PgOperator.Database.Definition
import PgOperator.Database.Identity
import PgOperator.Database.Instance
import PgOperator.Database.Report
import PgOperator.Database.Restore
import PgOperator.Database.Storage
import PgOperator.Database.Template
import PgOperator.Database.Version
import PgOperator.Decimal
import PgOperator.Derive.Containers
import PgOperator.Derive.Volumes
import PgOperator.Desired
import PgOperator.Dict
import PgOperator.Error
import PgOperator.Instant
import PgOperator.Json.Basic
import PgOperator.Json.Document
import PgOperator.Json.Fault
import PgOperator.Json.Merge
import PgOperator.Json.Number
import PgOperator.Json.Patch
import PgOperator.Json.Printer
import PgOperator.Json.Quoted
import PgOperator.Json.Reader
import PgOperator.Kube.Claim
import PgOperator.Kube.Container
import PgOperator.Kube.Env
import PgOperator.Kube.Meta
import PgOperator.Kube.Pod
import PgOperator.Kube.PodList
import PgOperator.Kube.Probe
import PgOperator.Kube.Service
import PgOperator.Kube.StatefulSet
import PgOperator.Kube.Volume
import PgOperator.Memory
import PgOperator.Merge
import PgOperator.Pass.Call
import PgOperator.Pass.Reconcile
import PgOperator.Proofs.Adoption
import PgOperator.Proofs.Agreement
import PgOperator.Proofs.Allocation
import PgOperator.Proofs.Applicability
import PgOperator.Proofs.ArchiveTarget
import PgOperator.Proofs.Asides
import PgOperator.Proofs.ByteOrder
import PgOperator.Proofs.Closure
import PgOperator.Proofs.Completion
import PgOperator.Proofs.Conditions
import PgOperator.Proofs.ContainerUpdate
import PgOperator.Proofs.Containers
import PgOperator.Proofs.Convergence
import PgOperator.Proofs.Digits
import PgOperator.Proofs.Effect
import PgOperator.Proofs.Environment
import PgOperator.Proofs.Filling
import PgOperator.Proofs.Footprint
import PgOperator.Proofs.Frame
import PgOperator.Proofs.Instant
import PgOperator.Proofs.Interleaving
import PgOperator.Proofs.Interruption
import PgOperator.Proofs.KeptDefaults
import PgOperator.Proofs.Leftovers
import PgOperator.Proofs.Members
import PgOperator.Proofs.Merge
import PgOperator.Proofs.Neighbours
import PgOperator.Proofs.NestedDefaults
import PgOperator.Proofs.Object
import PgOperator.Proofs.Overlay
import PgOperator.Proofs.Ownership
import PgOperator.Proofs.Patch
import PgOperator.Proofs.Paths
import PgOperator.Proofs.Positions
import PgOperator.Proofs.Published
import PgOperator.Proofs.Readiness
import PgOperator.Proofs.Reapplication
import PgOperator.Proofs.Refusal
import PgOperator.Proofs.Report
import PgOperator.Proofs.Resumption
import PgOperator.Proofs.RoundTrip
import PgOperator.Proofs.Schema
import PgOperator.Proofs.Selectors
import PgOperator.Proofs.Served
import PgOperator.Proofs.ServerDefaults
import PgOperator.Proofs.ServicePorts
import PgOperator.Proofs.Services
import PgOperator.Proofs.Staleness
import PgOperator.Proofs.Status
import PgOperator.Proofs.Steady
import PgOperator.Proofs.Steps
import PgOperator.Proofs.Store
import PgOperator.Proofs.TargetVolumes
import PgOperator.Proofs.Trace
import PgOperator.Proofs.Upsert
import PgOperator.Proofs.VolumeSource
import PgOperator.Proofs.Volumes
import PgOperator.Proofs.Waits
import PgOperator.Proofs.WellFormed
import PgOperator.Proofs.Whole
import PgOperator.Proofs.Workload
import PgOperator.Proofs.Written
import PgOperator.Schema.Codec
import PgOperator.Schema.OpenApi
import PgOperator.Schema.Reader
import PgOperator.Schema.Record
import PgOperator.Schema.Shape
import PgOperator.Sorted
import PgOperator.Text
import PgOperator.Text.Invisible
