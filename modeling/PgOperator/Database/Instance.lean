import PgOperator.Database.Restore
import PgOperator.Database.Template

/-!
Instances: what a user declares about one clustered PostgreSQL database, and what is reported about
it.
-/

namespace PgOperator

open Kube

/-! ### Status -/

/-- One aspect of an instance's state. The status is `True`, `False` or `Unknown`. -/
structure Condition where
  type : String := ""
  status : String := ""
  lastTransitionTime : String := ""
  reason : String := ""
  message : String := ""
  observedGeneration : Option Int64 := none
  deriving DecidableEq

abbrev Condition.fields : Fields :=
  must "type" .text <| must "status" .text <| must "lastTransitionTime" .text <|
  must "reason" .text <| must "message" .text <| opt "observedGeneration" .int64 .nil

instance : Record Condition where
  heading := .exact "struct Condition"
  fields := Condition.fields
  toVal x := (x.type, x.status, x.lastTransitionTime, x.reason, x.message, x.observedGeneration,
    ())
  ofVal := fun (type, status, lastTransitionTime, reason, message, observedGeneration, ()) =>
    {type, status, lastTransitionTime, reason, message, observedGeneration}
  ofVal_toVal _ := rfl
  toVal_ofVal _ := rfl

structure PostgresStatus where
  phase : Option String := none
  observedGeneration : Option Int64 := none
  conditions : List Condition := []
  deriving DecidableEq

abbrev PostgresStatus.fields : Fields :=
  opt "phase" .text <| opt "observedGeneration" .int64 <|
  skip "conditions" (.arr []) (.list (Record.shape Condition)) .nil

instance : Record PostgresStatus where
  heading := .exact "struct PostgresStatus"
  fields := PostgresStatus.fields
  toVal x := (x.phase, x.observedGeneration, x.conditions.map Record.toVal, ())
  ofVal := fun (phase, observedGeneration, conditions, ()) =>
    {phase, observedGeneration, conditions := conditions.map Record.ofVal}
  ofVal_toVal x := by simp [Function.comp_def]
  toVal_ofVal v := by simp [Function.comp_def]

/-! ### Declaration -/

/-- Where the data directory lives: on a claim of the pod, or in the pod itself. -/
inductive StorageType where
  | durable
  | ephemeral
  deriving DecidableEq

def StorageType.text : StorageType → String
  | .durable => "Durable"
  | .ephemeral => "Ephemeral"

instance : Named StorageType where
  first := .durable
  others := [.ephemeral]
  text := StorageType.text
  mem_values x := by cases x <;> simp
  eq_of_text_eq x y h := by cases x <;> cases y <;> simp_all [StorageType.text]

/-- Whether standbys answer queries or only replay the log. -/
inductive StandbyMode where
  | hot
  | warm
  deriving DecidableEq

def StandbyMode.text : StandbyMode → String
  | .hot => "Hot"
  | .warm => "Warm"

instance : Named StandbyMode where
  first := .hot
  others := [.warm]
  text := StandbyMode.text
  mem_values x := by cases x <;> simp
  eq_of_text_eq x y h := by cases x <;> cases y <;> simp_all [StandbyMode.text]

/-- Whether the primary waits for its standbys. -/
inductive StreamingMode where
  | synchronous
  | asynchronous
  deriving DecidableEq

def StreamingMode.text : StreamingMode → String
  | .synchronous => "Synchronous"
  | .asynchronous => "Asynchronous"

instance : Named StreamingMode where
  first := .synchronous
  others := [.asynchronous]
  text := StreamingMode.text
  mem_values x := by cases x <;> simp
  eq_of_text_eq x y h := by cases x <;> cases y <;> simp_all [StreamingMode.text]

structure LeaderElection where
  leaseDuration : Int32 := 15
  renewDeadline : Int32 := 10
  retryPeriod : Int32 := 2
  deriving DecidableEq

abbrev LeaderElection.fields : Fields :=
  dflt "leaseDurationSeconds" (.int 15) .int32 <| dflt "renewDeadlineSeconds" (.int 10) .int32 <|
  dflt "retryPeriodSeconds" (.int 2) .int32 .nil

instance : Record LeaderElection where
  heading := .exact "struct LeaderElection"
  fields := LeaderElection.fields
  toVal x := (x.leaseDuration, x.renewDeadline, x.retryPeriod, ())
  ofVal := fun (leaseDuration, renewDeadline, retryPeriod, ()) =>
    {leaseDuration, renewDeadline, retryPeriod}
  ofVal_toVal _ := rfl
  toVal_ofVal _ := rfl

structure SecretReference where
  name : String := ""
  deriving DecidableEq

abbrev SecretReference.fields : Fields :=
  must "name" .text .nil

instance : Record SecretReference where
  heading := .exact "struct SecretReference"
  fields := SecretReference.fields
  toVal x := (x.name, ())
  ofVal := fun (name, ()) =>
    {name}
  ofVal_toVal _ := rfl
  toVal_ofVal _ := rfl

structure PostgresSpec where
  version : String := ""
  replicas : Option Int32 := none
  standbyMode : Option StandbyMode := none
  streamingMode : Option StreamingMode := none
  leaderElection : Option LeaderElection := none
  authSecret : Option SecretReference := none
  storageType : StorageType := .durable
  storage : Option PersistentVolumeClaimSpec := none
  archiver : Option Archiver := none
  init : Option InitSource := none
  monitor : Option Monitor := none
  configSecret : Option SecretReference := none
  podTemplate : PodTemplate := {}
  serviceTemplate : ServiceTemplate := {}
  replicaServiceTemplate : ServiceTemplate := {}
  deriving DecidableEq

abbrev PostgresSpec.fields : Fields :=
  must "version" .text <| opt "replicas" .int32 <| opt "standbyMode" (Named.shape StandbyMode) <|
  opt "streamingMode" (Named.shape StreamingMode) <|
  opt "leaderElection" (Record.shape LeaderElection) <|
  opt "authSecret" (Record.shape SecretReference) <|
  dflt "storageType" (.str "Durable") (Named.shape StorageType) <|
  opt "storage" (.hidden (Record.shape PersistentVolumeClaimSpec)) <|
  opt "archiver" (Record.shape Archiver) <| opt "init" (Record.shape InitSource) <|
  opt "monitor" (Record.shape Monitor) <| opt "configSecret" (Record.shape SecretReference) <|
  dflt "podTemplate" (Json.object [("controller", .obj []), ("spec", .obj [])])
    (Record.shape PodTemplate) <|
  dflt "serviceTemplate" (Json.object [("spec", .obj [])]) (Record.shape ServiceTemplate) <|
  dflt "replicaServiceTemplate" (Json.object [("spec", .obj [])])
    (Record.shape ServiceTemplate) .nil

instance : Record PostgresSpec where
  heading := .exact "struct PostgresSpec"
  fields := PostgresSpec.fields
  toVal x := (x.version, x.replicas, x.standbyMode.map Named.toVal,
    x.streamingMode.map Named.toVal, x.leaderElection.map Record.toVal,
    x.authSecret.map Record.toVal, Named.toVal x.storageType, x.storage.map Record.toVal,
    x.archiver.map Record.toVal, x.init.map Record.toVal, x.monitor.map Record.toVal,
    x.configSecret.map Record.toVal, Record.toVal x.podTemplate, Record.toVal x.serviceTemplate,
    Record.toVal x.replicaServiceTemplate, ())
  ofVal := fun (version, replicas, standbyMode, streamingMode, leaderElection, authSecret,
    storageType, storage, archiver, init, monitor, configSecret, podTemplate, serviceTemplate,
    replicaServiceTemplate, ()) =>
    {version, replicas, standbyMode := standbyMode.map Named.ofVal,
      streamingMode := streamingMode.map Named.ofVal,
      leaderElection := leaderElection.map Record.ofVal,
      authSecret := authSecret.map Record.ofVal, storageType := Named.ofVal storageType,
      storage := storage.map Record.ofVal, archiver := archiver.map Record.ofVal,
      init := init.map Record.ofVal, monitor := monitor.map Record.ofVal,
      configSecret := configSecret.map Record.ofVal, podTemplate := Record.ofVal podTemplate,
      serviceTemplate := Record.ofVal serviceTemplate,
      replicaServiceTemplate := Record.ofVal replicaServiceTemplate}
  ofVal_toVal x := by simp [Function.comp_def]
  toVal_ofVal v := by simp [Function.comp_def]

structure Postgres where
  metadata : ObjectMeta := {}
  spec : PostgresSpec := {}
  status : Option PostgresStatus := none
  deriving DecidableEq

abbrev Postgres.fields : Fields :=
  .const "apiVersion" "kubedb.com/v1alpha2" false <| .const "kind" "Postgres" false <|
  must "metadata" (Record.shape ObjectMeta) <| must "spec" (Record.shape PostgresSpec) <|
  opt "status" (Record.shape PostgresStatus) .nil

instance : Record Postgres where
  heading := .exact "struct Postgres"
  fields := Postgres.fields
  toVal x := (Record.toVal x.metadata, Record.toVal x.spec, x.status.map Record.toVal, ())
  ofVal := fun (metadata, spec, status, ()) =>
    {metadata := Record.ofVal metadata, spec := Record.ofVal spec,
      status := status.map Record.ofVal}
  ofVal_toVal x := by simp [Function.comp_def]
  toVal_ofVal v := by simp [Function.comp_def]

end PgOperator
