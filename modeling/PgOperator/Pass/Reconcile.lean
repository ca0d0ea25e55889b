import PgOperator.Desired
import PgOperator.Pass.Call

/-!
A whole pass over an instance: its services, then the stateful set, whose pods are waited for after
a change, then the disruption budget. Every change but the budget's is told in an event, and
between steps the pass looks whether it has been cancelled.

Each object is created where it is missing, left alone where it needs no change, and patched
otherwise. A patch is pinned to the version that was read, so that a write in between is noticed.
-/

namespace PgOperator

/-! ### One object -/

/-- The operations that turn one object into another. Unless there are none, the first one sets
the resource version to the one that was read, if any. -/
def diffPatch {kind : Kind} (current modified : kind.Object) : Json.Patch :=
  match Json.diff (Record.encode current) (Record.encode modified) with
  | [] => []
  | op :: ops =>
    match (kind.metadata current).resourceVersion with
    | some version => .replace ["metadata", "resourceVersion"] (.str version) :: op :: ops
    | none => op :: ops

namespace Pass

/-- Brings an object to the state that `mutate` gives it. -/
def createOrPatch (kind : Kind) (id : ObjectId) (mutate : kind.Object → kind.Object) :
    Pass (kind.Object × Outcome) := do
  match ← get kind id with
  | none =>
    let created ← create kind id.ns (mutate (kind.blank id))
    return (created, .created)
  | some current =>
    let modified := mutate current
    if modified = current then
      return (current, .unchanged)
    else match diffPatch current modified with
      | [] => return (current, .unchanged)
      | op :: ops =>
        let patched ← patch kind id (op :: ops)
        return (patched, .patched)

end Pass

/-! ### All objects -/

open Kube

namespace Pass

/-- Tells of a change. -/
def announce (db : Postgres) (what : String) (outcome : Outcome) : Pass Unit :=
  if outcome.isChanged then
    emit db ⟨.normal, "Successful", "Successfully " ++ outcome.text ++ " " ++ what⟩
  else return ()

/-- Brings a service to its desired state and tells of a change. -/
def ensureNamedService (db : Postgres) (name what : String) (mutate : Service → Service) :
    Pass Outcome := do
  ensureNotCancelled
  let (_, outcome) ← createOrPatch .service ⟨db.ns, name⟩ mutate
  announce db what outcome
  return outcome

/-- The service that governs the stateful set. -/
def ensureGoverningService (db : Postgres) : Pass Outcome :=
  ensureNamedService db db.governingServiceName "governing service" db.governingService

/-- The service in front of the primary. -/
def ensurePrimaryService (db : Postgres) : Pass Outcome :=
  ensureNamedService db db.name "Service" (db.databaseService .primary)

/-- The service in front of the standbys. -/
def ensureStandbyService (db : Postgres) : Pass Outcome :=
  ensureNamedService db db.standbyServiceName "standby Service" (db.databaseService .standby)

/-- The services in front of the members; there is one for standbys only with several members. -/
def ensureService (db : Postgres) : Pass Outcome := do
  let primary ← ensurePrimaryService db
  if db.replicas ≤ 1 then
    return primary
  else
    let standby ← ensureStandbyService db
    return primary.combine standby

/-- The service in front of the exporters, where there are any. -/
def ensureStatsService (db : Postgres) : Pass Outcome :=
  match db.spec.monitor with
  | some monitor =>
    if db.exporterEnabled then
      ensureNamedService db db.statsServiceName "stats service"
        (db.statsService monitor.exporter.port)
    else do
      ensureNotCancelled
      return .unchanged
  | none => do
    ensureNotCancelled
    return .unchanged

/-- Whether a stateful set carries both labels of the instance. -/
def ownsStatefulSet (db : Postgres) (set : StatefulSet) : Bool :=
  let labels := set.metadata.labels.getD .empty
  labels.get? Label.kind = some "Postgres" ∧ labels.get? Label.name = some db.name

/-- Refuses a stateful set of the instance's name that belongs to something else. -/
def checkStatefulSet (db : Postgres) : Pass Unit := do
  match ← get .statefulSet ⟨db.ns, db.name⟩ with
  | none => return ()
  | some set =>
    if ownsStatefulSet db set then return ()
    else .fail (.namingCollision "StatefulSet" db.ns db.name)

def awaitStatefulSet (options : Options) (set : StatefulSet) : Pass Unit :=
  awaitPods set.metadata.anyNamespace ((set.spec.bind (·.selector.matchLabels)).getD .empty)
    set.replicas options.readinessTimeout

/-- The disruption budget of a stateful set. -/
def ensureDisruptionBudget (set : StatefulSet) : Pass Outcome := do
  let (_, outcome) ← createOrPatch .disruptionBudget
    ⟨set.metadata.anyNamespace, set.metadata.anyName⟩ set.disruptionBudget
  return outcome

/-- The stateful set, its running pods and its budget. -/
def ensureStatefulSet (db : Postgres) (version : PostgresVersion) (options : Options) :
    Pass Outcome := do
  ensureNotCancelled
  checkStatefulSet db
  let (set, outcome) ← createOrPatch .statefulSet ⟨db.ns, db.name⟩ (db.statefulSet version options)
  if outcome.isChanged then
    awaitStatefulSet options set
    announce db "StatefulSet" outcome
  ensureNotCancelled
  let _ ← ensureDisruptionBudget set
  return outcome

/-- Everything that an instance needs, in the order of dependence. The outcome is that of the
stateful set. -/
def reconcile (db : Postgres) (version : PostgresVersion) (options : Options) : Pass Outcome := do
  let _ ← ensureGoverningService db
  let _ ← ensureService db
  let _ ← ensureStatsService db
  ensureStatefulSet db version options

end Pass

end PgOperator
