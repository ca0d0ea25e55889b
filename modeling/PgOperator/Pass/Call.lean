import PgOperator.Database.Instance
import PgOperator.Error
import PgOperator.Json.Patch
import PgOperator.Kube.StatefulSet

/-!
Passes over the cluster. A `Pass` is a program over the calls that the operator makes of its
surroundings: reading and writing objects of a few kinds, waiting for pods, asking whether it has
been cancelled, and recording events. `Pass.run` carries a pass out against whatever answers the
calls.
-/

namespace PgOperator

/-! ### Kinds of objects -/

open Kube

/-- A kind of object that a pass writes. -/
inductive Kind where
  | service
  | statefulSet
  | disruptionBudget
  deriving DecidableEq

/-- Namespace and name of an object. -/
structure ObjectId where
  ns : String
  name : String
  deriving DecidableEq

namespace Kind

@[reducible] def Object : Kind → Type
  | .service => Service
  | .statefulSet => StatefulSet
  | .disruptionBudget => PodDisruptionBudget

instance : (kind : Kind) → Record kind.Object
  | .service => inferInstanceAs (Record Service)
  | .statefulSet => inferInstanceAs (Record StatefulSet)
  | .disruptionBudget => inferInstanceAs (Record PodDisruptionBudget)

instance : (kind : Kind) → DecidableEq kind.Object
  | .service => inferInstanceAs (DecidableEq Service)
  | .statefulSet => inferInstanceAs (DecidableEq StatefulSet)
  | .disruptionBudget => inferInstanceAs (DecidableEq PodDisruptionBudget)

def name : Kind → String
  | .service => "Service"
  | .statefulSet => "StatefulSet"
  | .disruptionBudget => "PodDisruptionBudget"

def metadata : (kind : Kind) → kind.Object → ObjectMeta
  | .service, object => object.metadata
  | .statefulSet, object => object.metadata
  | .disruptionBudget, object => object.metadata

def withMetadata : (kind : Kind) → kind.Object → ObjectMeta → kind.Object
  | .service, object, metadata => { object with metadata }
  | .statefulSet, object, metadata => { object with metadata }
  | .disruptionBudget, object, metadata => { object with metadata }

/-- An object that carries its identity and nothing else. -/
def blank (kind : Kind) (id : ObjectId) : kind.Object :=
  let metadata : ObjectMeta := { name := some id.name, ns := some id.ns }
  match kind with
  | .service => { metadata }
  | .statefulSet => { metadata }
  | .disruptionBudget => { metadata }

end Kind

/-! ### Calls -/

/-- Whether an event tells of progress or of trouble. -/
inductive EventType where
  | normal
  | warning
  deriving DecidableEq

def EventType.text : EventType → String
  | .normal => "Normal"
  | .warning => "Warning"

structure Notice where
  type : EventType
  reason : String
  message : String
  deriving DecidableEq

/-- What a pass asks of its surroundings. Timeouts are in seconds. -/
inductive Call where
  | get (kind : Kind) (id : ObjectId)
  | create (kind : Kind) (ns : String) (object : kind.Object)
  | patch (kind : Kind) (id : ObjectId) (patch : Json.Patch)
  | awaitPods (ns : String) (selector : Dict String) (count : Int32) (timeout : Nat)
  | isCancelled
  | emit (db : Postgres) (notice : Notice)

/-- What comes back from a call. -/
@[reducible] def Call.Reply : Call → Type
  | .get kind _ => Except Error (Option kind.Object)
  | .create kind _ _ => Except Error kind.Object
  | .patch kind _ _ => Except Error kind.Object
  | .awaitPods .. => Except Error Unit
  | .isCancelled => Bool
  | .emit .. => Unit

/-- A program over calls that ends with a value or an error. -/
inductive Pass (α : Type) where
  | done (value : α)
  | fail (error : Error)
  | call (call : Call) (next : call.Reply → Pass α)

namespace Pass

variable {α β σ : Type}

/-- One pass after the other; an error ends both. -/
def bind : Pass α → (α → Pass β) → Pass β
  | .done value, next => next value
  | .fail error, _ => .fail error
  | .call c k, next => .call c fun reply => (k reply).bind next

instance : Monad Pass where
  pure := .done
  bind := bind

/-- A pass that is over. -/
def ofExcept : Except Error α → Pass α
  | .ok value => .done value
  | .error error => .fail error

/-- Carries a pass out. -/
def run (answer : (c : Call) → σ → c.Reply × σ) : Pass α → σ → Except Error α × σ
  | .done value, s => (.ok value, s)
  | .fail error, s => (.error error, s)
  | .call c k, s =>
    let (reply, s) := answer c s
    (k reply).run answer s

@[simp] theorem run_done (answer : (c : Call) → σ → c.Reply × σ) (value : α) (s : σ) :
    (Pass.done value).run answer s = (.ok value, s) := rfl

@[simp] theorem run_fail (answer : (c : Call) → σ → c.Reply × σ) (error : Error) (s : σ) :
    (Pass.fail error : Pass α).run answer s = (.error error, s) := rfl

@[simp] theorem run_call (answer : (c : Call) → σ → c.Reply × σ) (c : Call)
    (k : c.Reply → Pass α) (s : σ) :
    (Pass.call c k).run answer s = (k (answer c s).1).run answer (answer c s).2 := rfl

/-- A pass in two parts runs the second part from where the first one ends, unless that failed. -/
theorem run_bind (answer : (c : Call) → σ → c.Reply × σ) (p : Pass α) (next : α → Pass β) (s : σ) :
    (p >>= next).run answer s =
      match p.run answer s with
      | (.ok value, s) => (next value).run answer s
      | (.error error, s) => (.error error, s) := by
  induction p generalizing s with
  | done value => rfl
  | fail error => rfl
  | call c k ih => exact ih _ _

/-- Reads an object; a missing one is no error. -/
def get (kind : Kind) (id : ObjectId) : Pass (Option kind.Object) :=
  .call (.get kind id) ofExcept

/-- Creates an object and gives it as it is stored. -/
def create (kind : Kind) (ns : String) (object : kind.Object) : Pass kind.Object :=
  .call (.create kind ns object) ofExcept

/-- Patches an object and gives it as it is stored. -/
def patch (kind : Kind) (id : ObjectId) (patch : Json.Patch) : Pass kind.Object :=
  .call (.patch kind id patch) ofExcept

def awaitPods (ns : String) (selector : Dict String) (count : Int32) (timeout : Nat) : Pass Unit :=
  .call (.awaitPods ns selector count timeout) ofExcept

def emit (db : Postgres) (notice : Notice) : Pass Unit := .call (.emit db notice) .done

/-- Ends a pass that has been cancelled. -/
def ensureNotCancelled : Pass Unit :=
  .call .isCancelled fun cancelled => if cancelled then .fail .cancelled else .done ()

end Pass

end PgOperator
