import PgOperator.Derive.Containers
import PgOperator.Kube.StatefulSet
import PgOperator.Merge

/-!
The objects of an instance, each laid over the one that is live.

* Of the services the governing one has no address of its own and gives the pods their names, a
  database service stands in front of the primary or the standbys, and the stats service in front
  of the exporters.
* Of the stateful set only the fields that the operator owns are written; containers, variables,
  mounts, volumes and claims are merged by name, so that what others put there stays.
* The disruption budget is made for the stateful set, and belongs to it.
-/

namespace PgOperator

open Kube

/-! ### Services -/

/-- Which members a database service stands in front of. -/
inductive ServiceRole where
  | primary
  | standby
  deriving DecidableEq

namespace ServiceRole

def label : ServiceRole → String
  | .primary => "primary"
  | .standby => "replica"

def portName : ServiceRole → String
  | .primary => "primary"
  | .standby => "standby"

def serviceName (db : Postgres) : ServiceRole → String
  | .primary => db.name
  | .standby => db.standbyServiceName

/-- The user's settings of the service. -/
def template (db : Postgres) : ServiceRole → ServiceTemplate
  | .primary => db.spec.serviceTemplate
  | .standby => db.spec.replicaServiceTemplate

end ServiceRole

namespace Postgres

/-- The service that governs the stateful set. -/
def governingService (db : Postgres) (live : Service) : Service :=
  { live with
    metadata := (live.metadata.ensureOwner db.ownerReference).layer db.labels none
    spec := some { live.spec.getD {} with
      type := some "ClusterIP"
      clusterIP := some "None"
      selector := some db.selectors
      publishNotReadyAddresses := some true } }

/-- A text that is given and not empty, or else the live one. -/
def givenOr (given live : Option String) : Option String :=
  match given with
  | some text => if text = "" then live else some text
  | none => live

/-- The ports of a database service: its own port under the user's ports. -/
def databaseServicePorts (db : Postgres) (role : ServiceRole) (live : List ServicePort) :
    List ServicePort :=
  let canonical : ServicePort := {
    name := some role.portName
    port := databasePort
    targetPort := some (.text databasePortName) }
  overlayServicePorts (mergeServicePorts live [canonical]) (role.template db).spec.ports

/-- The service in front of the primary or the standbys. -/
def databaseService (db : Postgres) (role : ServiceRole) (live : Service) : Service :=
  let template := role.template db
  let overrides := template.spec
  let spec := live.spec.getD {}
  { live with
    metadata := (live.metadata.ensureOwner db.ownerReference).layer db.labels template.annotations
    spec := some { spec with
      selector := some (db.selectors.insert Label.role role.label)
      ports := some (db.databaseServicePorts role (spec.ports.getD []))
      clusterIP := givenOr overrides.clusterIP spec.clusterIP
      type := givenOr overrides.type spec.type
      externalIPs := overrides.externalIPs
      loadBalancerIP := overrides.loadBalancerIP
      loadBalancerSourceRanges := overrides.loadBalancerSourceRanges
      externalTrafficPolicy := overrides.externalTrafficPolicy <|> spec.externalTrafficPolicy
      healthCheckNodePort := match overrides.healthCheckNodePort with
        | some n => if 0 < n then some n else spec.healthCheckNodePort
        | none => spec.healthCheckNodePort } }

/-- The service in front of the exporters, which listen on the given port. -/
def statsService (db : Postgres) (port : Int32) (live : Service) : Service :=
  let spec := live.spec.getD {}
  { live with
    metadata := (live.metadata.ensureOwner db.ownerReference).layer db.statsLabels none
    spec := some { spec with
      selector := some db.selectors
      ports := some (mergeServicePorts (spec.ports.getD []) [{
        name := some exporterPortName
        protocol := some "TCP"
        port := port
        targetPort := some (.text exporterPortName) }]) } }

end Postgres

/-! ### Stateful set -/

namespace Postgres

/-- The pod that members run in, laid over the live one. -/
def podSpec (db : Postgres) (version : PostgresVersion) (options : Options) (live : PodSpec) :
    PodSpec :=
  let overrides := db.spec.podTemplate.spec
  let volumes := db.volumes
  let merged := volumes.volumes.foldl upsertVolume (live.volumes.getD [])
  { live with
    initContainers :=
      if overrides.initContainers.isEmpty then live.initContainers
      else some (upsertContainers (live.initContainers.getD []) overrides.initContainers)
    containers := upsertContainers live.containers (db.containers version options volumes)
    nodeSelector := overrides.nodeSelector
    affinity := overrides.affinity
    schedulerName := match overrides.schedulerName with
      | some name => if name = "" then live.schedulerName else some name
      | none => live.schedulerName
    tolerations := overrides.tolerations
    imagePullSecrets := overrides.imagePullSecrets
    priorityClassName := overrides.priorityClassName
    priority := overrides.priority
    securityContext := some (overrides.securityContext.getD Table.podSecurityContext.zero)
    serviceAccountName := overrides.serviceAccountName
    volumes := some (match volumes.data with
      | .claim _ => merged.filter fun v => v.name ≠ VolumeSet.dataName
      | .ephemeral _ => merged) }

/-- The claim templates, laid over the live ones. -/
def claimTemplates (db : Postgres) (live : Option (List PersistentVolumeClaim)) :
    Option (List PersistentVolumeClaim) :=
  match db.dataVolume with
  | .claim claim => some (upsertClaim (live.getD []) claim)
  | .ephemeral _ => live.map (List.filter fun c => c.metadata.name ≠ some VolumeSet.dataName)

/-- The stateful set that runs the members. -/
def statefulSet (db : Postgres) (version : PostgresVersion) (options : Options)
    (live : StatefulSet) : StatefulSet :=
  let template := db.spec.podTemplate
  let spec := live.spec.getD {}
  { live with
    metadata :=
      (live.metadata.layer db.labels template.controller.annotations).ensureOwner db.ownerReference
    spec := some { spec with
      replicas := some db.replicas
      serviceName := db.governingServiceName
      selector := { matchLabels := some db.selectors }
      updateStrategy := some { type := some "OnDelete" }
      template := {
        metadata := some ((spec.template.metadata.getD {}).layer db.selectors template.annotations)
        spec := some (db.podSpec version options (spec.template.spec.getD {})) }
      volumeClaimTemplates := db.claimTemplates spec.volumeClaimTemplates } }

end Postgres

/-! ### Disruption budget -/

/-- How many members may be away: a minority, and one at least. -/
def maxUnavailable (replicas : Int32) : Int32 :=
  let minority := (replicas - 1) / 2
  if minority < 1 then 1 else minority

namespace Kube.StatefulSet

/-- The reference by which an object belongs to the stateful set. -/
def ownerReference (set : StatefulSet) : OwnerReference where
  apiVersion := "apps/v1"
  kind := "StatefulSet"
  name := set.metadata.anyName
  uid := set.metadata.uid.getD ""
  controller := some true
  blockOwnerDeletion := some true

def replicas (set : StatefulSet) : Int32 := (set.spec.bind (·.replicas)).getD 1

/-- The budget for the pods of the stateful set. -/
def disruptionBudget (set : StatefulSet) (live : PodDisruptionBudget) : PodDisruptionBudget :=
  { live with
    metadata :=
      (live.metadata.layer (set.metadata.labels.getD .empty) none).ensureOwner set.ownerReference
    spec := some { live.spec.getD {} with
      selector := set.spec.map (·.selector)
      minAvailable := none
      maxUnavailable := some (.int (maxUnavailable set.replicas)) } }

end Kube.StatefulSet

end PgOperator
