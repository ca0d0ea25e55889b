import PgOperator.Database.Instance
import PgOperator.Error

/-!
The status that a pass reports. Its conditions are a list, in which those written by others are
kept. A condition's transition time moves only when its status changes.
-/

namespace PgOperator

namespace Condition

/-- The condition that says whether the last pass succeeded. -/
def ready : String := "Ready"

/-- A condition with a new state, reached at `now` if the status is another one. -/
def update (old : Condition) (status reason message : String) (generation : Option Int64)
    (now : String) : Condition :=
  { old with
    status := status
    lastTransitionTime := if old.status = status then old.lastTransitionTime else now
    reason := reason
    message := message
    observedGeneration := generation }

/-- Updates the first condition of a type, or puts a new one at the end. -/
def set (type status reason message : String) (generation : Option Int64) (now : String) :
    List Condition → List Condition
  | [] =>
    [{ type, status, lastTransitionTime := now, reason, message, observedGeneration := generation }]
  | c :: rest =>
    if c.type = type then c.update status reason message generation now :: rest
    else c :: set type status reason message generation now rest

/-- Records whether a pass succeeded. -/
def setReady (succeeded : Bool) (reason message : String) (generation : Option Int64)
    (now : String) (conditions : List Condition) : List Condition :=
  set ready (if succeeded then "True" else "False") reason message generation now conditions

def find? (conditions : List Condition) (type : String) : Option Condition :=
  conditions.find? fun c => c.type = type

def isTrue (conditions : List Condition) (type : String) : Bool :=
  match find? conditions type with
  | some c => c.status = "True"
  | none => false

end Condition

namespace Postgres

/-- The status after a pass with the given result, recorded over the status the instance has. -/
def report (db : Postgres) (result : Except Error Outcome) (now : String) : PostgresStatus :=
  let generation := db.metadata.generation
  let status := db.status.getD {}
  match result with
  | .ok outcome =>
    { status with
      phase := some "Ready"
      observedGeneration := generation
      conditions := Condition.setReady true "Reconciled" ("Last pass " ++ outcome.text) generation
        now status.conditions }
  | .error error =>
    { status with
      phase := some "Failed"
      conditions := Condition.setReady false "ReconcileFailed" error.message generation now
        status.conditions }

end Postgres

end PgOperator
