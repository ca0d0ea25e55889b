import PgOperator.Database.Version
import PgOperator.Derive.Volumes
import PgOperator.Merge

/-!
The containers of the database pods: the database, and beside it the metrics exporter where
Prometheus monitors the instance. Settings of the operator itself go into the first one.

The environment of the database container has a fixed order: identity and credentials, replication,
leader election, archive and restore, and then the user's variables, which win over derived ones
of the same name.
-/

namespace PgOperator

open Kube

/-! ### Settings of the operator -/

/-- Settings that bound waits or end up in derived objects. Times are in seconds. -/
structure Options where
  readinessTimeout : Nat := 600
  readinessPoll : Nat := 2
  enableAnalytics : Bool := false
  analyticsClientId : String := ""
  logLevel : UInt8 := 3
  fieldManager : String := "postgres-operator"

/-! ### Environment -/

def int32Text (n : Int32) : String := toString n.toInt

/-- A variable with a text. -/
def plainVar (name value : String) : EnvVar where
  name := name
  value := some value

/-- A variable whose text is a key of a secret. -/
def secretVar (name secret key : String) : EnvVar where
  name := name
  valueFrom := some { secretKeyRef := some { key := key, name := some secret } }

/-- A variable whose text is a field of the pod. -/
def fieldVar (name path : String) : EnvVar where
  name := name
  valueFrom := some { fieldRef := some { fieldPath := path } }

/-- The prefix variable of a remote store: the address of a directory in it. -/
def remoteVar (stem : String) (backend : Backend) (dir : String) : EnvVar :=
  plainVar (stem ++ "_" ++ backend.infixText ++ "_PREFIX")
    (backend.scheme?.getD "" ++ "://" ++ backend.location?.getD "" ++ "/" ++ dir)

/-- Variables of an S3 store: an endpoint that is not Amazon's, and a region. -/
def s3Env (stem : String) (store : S3Store) : List EnvVar :=
  (if store.endpoint ≠ "" ∧ ¬ Text.endsWith store.endpoint ".amazonaws.com" then
    [plainVar (stem ++ "_S3_ENDPOINT") store.endpoint] else []) ++
  (if store.region ≠ "" then [plainVar (stem ++ "_S3_REGION") store.region] else [])

def remoteEnv (stem : String) (backend : Backend) (dir : String) : List EnvVar :=
  remoteVar stem backend dir ::
    match backend with
    | .s3 store => s3Env stem store
    | _ => []

/-- Continuous archiving: below the instance's directory of a remote store, or straight into a
local volume. -/
def archiveEnv (db : Postgres) (storage : StorageBackend) : List EnvVar :=
  plainVar "ARCHIVE" "wal-g" ::
    match storage.backend? with
    | none => []
    | some (.file store) => [plainVar "ARCHIVE_FILE_PREFIX" store.mountPath]
    | some backend => remoteEnv "ARCHIVE" backend db.walDataDir

/-- Where recovery stops. -/
def recoveryTargetEnv (target : RecoveryTarget) : List EnvVar :=
  let given (name : String) (value : Option String) : List EnvVar :=
    match value with
    | some value => if value = "" then [] else [plainVar name value]
    | none => []
  [plainVar "PITR" "true",
    plainVar "TARGET_INCLUSIVE" (if target.inclusive then "true" else "false")] ++
    given "TARGET_TIME" target.time ++ given "TARGET_TIMELINE" target.timeline ++
    given "TARGET_XID" target.xid

/-- Restoring from an archive, perhaps to a point in time. -/
def restoreEnv (wal : WalSource) : List EnvVar :=
  plainVar "RESTORE" "true" ::
    (match wal.storage.backend? with
      | none => []
      | some (.file store) =>
        [plainVar "RESTORE_FILE_PREFIX" (Text.absolutePath [store.mountPath, store.subPath])]
      | some backend => remoteEnv "RESTORE" backend backend.dir) ++
    match wal.pitr with
    | some target => recoveryTargetEnv target
    | none => []

/-- Where a member finds itself, its primary and its credentials. -/
def identityEnv (db : Postgres) : List EnvVar :=
  [fieldVar "NAMESPACE" "metadata.namespace",
    plainVar "PRIMARY_HOST" db.name,
    secretVar "POSTGRES_USER" db.authSecretName "username",
    secretVar "POSTGRES_PASSWORD" db.authSecretName "password"]

/-- The modes of replication, in small letters. -/
def replicationEnv (db : Postgres) : List EnvVar :=
  [plainVar "STANDBY" (match db.standbyMode with | .hot => "hot" | .warm => "warm"),
    plainVar "STREAMING" (match db.streamingMode with
      | .synchronous => "synchronous"
      | .asynchronous => "asynchronous")]

def leaderElectionEnv (election : LeaderElection) : List EnvVar :=
  [plainVar "LEASE_DURATION" (int32Text election.leaseDuration),
    plainVar "RENEW_DEADLINE" (int32Text election.renewDeadline),
    plainVar "RETRY_PERIOD" (int32Text election.retryPeriod)]

namespace Postgres

/-- The variables that follow from the instance, without the user's. -/
def derivedEnv (db : Postgres) : List EnvVar :=
  identityEnv db ++ replicationEnv db ++
    (match db.spec.leaderElection with
      | some election => leaderElectionEnv election
      | none => []) ++
    (match db.archive? with
      | some storage => archiveEnv db storage
      | none => []) ++
    match db.restore? with
    | some wal => restoreEnv wal
    | none => []

def env (db : Postgres) : List EnvVar := upsertEnv db.derivedEnv db.spec.podTemplate.spec.env

end Postgres

/-! ### Containers -/

namespace Postgres

def containerName : String := "postgres"

/-- The environment of the database container with the operator's own variable in front. -/
def containerEnv (db : Postgres) (options : Options) : List EnvVar :=
  upsertEnv [plainVar "ANALYTICS_CLIENT_ID" options.analyticsClientId] db.env

def databaseContainer (db : Postgres) (version : PostgresVersion) (options : Options)
    (volumes : VolumeSet) : Container :=
  let overrides := db.spec.podTemplate.spec
  { name := containerName
    image := some version.spec.db.image
    args := some ["leader_election",
      "--enable-analytics=" ++ (if options.enableAnalytics then "true" else "false"),
      "--v=" ++ toString options.logLevel.toNat]
    env := some (db.containerEnv options)
    ports := some [{
      containerPort := databasePort, name := some databasePortName, protocol := some "TCP" }]
    resources := overrides.resources
    livenessProbe := overrides.livenessProbe
    readinessProbe := overrides.readinessProbe
    lifecycle := overrides.lifecycle
    securityContext := some {
      privileged := some false
      capabilities := some { add := some ["IPC_LOCK", "SYS_RESOURCE"] } }
    volumeMounts := some volumes.mounts }

/-- The environment of the exporter: the user's variables under the operator's. -/
def exporterEnv (db : Postgres) (exporter : Exporter) : List EnvVar :=
  upsertEnv exporter.env
    [plainVar "DATA_SOURCE_URI" ("localhost:" ++ int32Text databasePort ++ "/?sslmode=disable"),
      secretVar "DATA_SOURCE_USER" db.authSecretName "username",
      secretVar "DATA_SOURCE_PASS" db.authSecretName "password",
      plainVar "PG_EXPORTER_WEB_LISTEN_ADDRESS" (":" ++ int32Text exporter.port),
      plainVar "PG_EXPORTER_WEB_TELEMETRY_PATH" "/metrics"]

/-- The exporter container, where the instance is monitored by Prometheus. -/
def exporterContainer? (db : Postgres) (version : PostgresVersion) : Option Container := do
  let monitor ← db.spec.monitor
  guard db.exporterEnabled
  let exporter := monitor.exporter
  return {
    name := "exporter"
    image := some version.spec.exporter.image
    imagePullPolicy := some "IfNotPresent"
    args := some ("--log.level=info" :: exporter.args)
    env := some (db.exporterEnv exporter)
    ports := some [{
      containerPort := exporter.port, name := some exporterPortName, protocol := some "TCP" }]
    resources := exporter.resources
    securityContext := exporter.securityContext }

def containers (db : Postgres) (version : PostgresVersion) (options : Options)
    (volumes : VolumeSet) : List Container :=
  db.databaseContainer version options volumes :: (db.exporterContainer? version).toList

end Postgres

end PgOperator
