import PgOperator.Database.Instance
import PgOperator.Database.Storage
import PgOperator.Text

/-!
What follows from an instance's identity: the names, labels and selectors of its objects, and the
settings that it leaves to a default.
-/

namespace PgOperator

open Kube

namespace Label

def kind : String := "kubedb.com/kind"

def name : String := "kubedb.com/name"

def role : String := "kubedb.com/role"

end Label

/-- The condition that says that a restore or an init script is done. -/
def dataRestored : String := "DataRestored"

def databasePort : Int32 := 5432

def databasePortName : String := "api"

def exporterPortName : String := "metrics"

namespace Monitor

/-- The part of the agent's name before the first slash. -/
def vendor (monitor : Monitor) : String := String.ofList (monitor.agent.toList.takeWhile (· ≠ '/'))

/-- The settings of the exporter, or the default ones. -/
def exporter (monitor : Monitor) : Exporter :=
  match monitor.prometheus with
  | some prometheus => prometheus.exporter
  | none => {}

end Monitor

namespace Postgres

def name (db : Postgres) : String := db.metadata.anyName

def ns (db : Postgres) : String := db.metadata.anyNamespace

/-- The name of the service that governs the stateful set. -/
def governingServiceName (db : Postgres) : String := db.name ++ "-pods"

/-- The name of the service in front of the standbys. -/
def standbyServiceName (db : Postgres) : String := db.name ++ "-standby"

/-- The name of the service in front of the exporters. -/
def statsServiceName (db : Postgres) : String := db.name ++ "-stats"

/-- The labels that select the pods of the instance. -/
def selectors (db : Postgres) : Dict String :=
  .ofList [(Label.kind, "Postgres"), (Label.name, db.name)]

/-- The labels of the instance with the selecting ones on top. -/
def labels (db : Postgres) : Dict String :=
  (db.metadata.labels.getD .empty).extend db.selectors

/-- The labels of the service in front of the exporters. -/
def statsLabels (db : Postgres) : Dict String := db.labels.insert Label.role "stats"

def replicas (db : Postgres) : Int32 := db.spec.replicas.getD 1

def authSecretName (db : Postgres) : String :=
  match db.spec.authSecret with
  | some secret => secret.name
  | none => db.name ++ "-auth"

/-- The target of continuous archiving. -/
def archive? (db : Postgres) : Option StorageBackend := db.spec.archiver.bind (·.storage)

/-- The archive to restore from. -/
def restore? (db : Postgres) : Option WalSource := db.spec.init.bind (·.postgresWal)

/-- The directory of the instance in its archive. -/
def walDataDir (db : Postgres) : String :=
  let dir := match db.archive?.bind (·.backend?) with
    | none | some (.file _) => ""
    | some backend => backend.dir
  Text.join "/"
    ([Text.trimSlashes dir, "kubedb", db.ns, db.name, "archive"].filter (· ≠ ""))

/-- Whether an exporter runs beside the database: only for Prometheus. -/
def exporterEnabled (db : Postgres) : Bool :=
  match db.spec.monitor with
  | some monitor => monitor.vendor = "prometheus.io"
  | none => false

/-- Whether any condition of a type is reported as true. -/
def isConditionTrue (db : Postgres) (type : String) : Bool :=
  match db.status with
  | some status => status.conditions.any fun c => c.type = type ∧ c.status = "True"
  | none => false

def standbyMode (db : Postgres) : StandbyMode := db.spec.standbyMode.getD .warm

def streamingMode (db : Postgres) : StreamingMode := db.spec.streamingMode.getD .asynchronous

/-- The reference by which objects belong to the instance. -/
def ownerReference (db : Postgres) : OwnerReference where
  apiVersion := "kubedb.com/v1alpha2"
  kind := "Postgres"
  name := db.name
  uid := db.metadata.uid.getD ""
  controller := some true
  blockOwnerDeletion := some true

end Postgres

end PgOperator
