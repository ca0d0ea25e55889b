import PgOperator.Api.Transport
import PgOperator.Database.Identity
import PgOperator.Derive.Containers
import PgOperator.Kube.PodList
import PgOperator.Pass.Call
import PgOperator.Dict

/-!
How the calls of a pass become requests. Reads are plain, writes name the field manager, patches go
as operation lists, and events are told to the server without regard to what it says.
`Client.answer` is what `Pass.run` carries a pass out with.

Pods are waited for by looking at them again and again. A wait ends when enough of them run, when
the deadline is over, when it is cancelled during a pause, or when looking fails. `Polling.await`
bounds the looks; `await_isSome` says how many suffice if every pause takes its time.
-/

namespace PgOperator

namespace Api

/-! ### Polling -/

structure Polling (σ : Type) where
  /-- Counts the running pods. -/
  look : σ → Except Error Int32 × σ
  /-- The time in milliseconds. -/
  millis : σ → Nat
  /-- Lets time pass; tells whether a cancellation came first. -/
  pause : σ → Bool × σ

namespace Polling

variable {σ : Type}

/-- Waits until `count` pods run or the deadline is over, which the count of the last look is
reported with. There is no result if the given number of looks does not suffice. -/
def await (p : Polling σ) (count : Int32) (deadline : Nat) (late : Int32 → Error) :
    Nat → σ → Option (Except Error Unit × σ)
  | 0, _ => none
  | looks + 1, s =>
    match p.look s with
    | (.error error, s) => some (.error error, s)
    | (.ok running, s) =>
      if count ≤ running then some (.ok (), s)
      else if deadline ≤ p.millis s then some (.error (late running), s)
      else
        match p.pause s with
        | (true, s) => some (.error .cancelled, s)
        | (false, s) => p.await count deadline late looks s

/-- One look, and one more for each pause that fits in before the deadline, are enough. -/
theorem await_isSome (p : Polling σ) (count : Int32) (deadline : Nat) (late : Int32 → Error)
    {length : Nat} (hlook : ∀ s, p.millis s ≤ p.millis (p.look s).2)
    (hpause : ∀ s, (p.pause s).1 = false → p.millis s + length ≤ p.millis (p.pause s).2)
    (pauses : Nat) (s : σ) (h : deadline ≤ p.millis s + pauses * length) :
    (p.await count deadline late (pauses + 1) s).isSome := by
  -- On the pauses that are left, each of which brings the deadline nearer by its length.
  induction pauses generalizing s with
  | zero =>
    unfold await
    have hs := hlook s
    split
    · rfl
    · rename_i running s' heq
      rw [heq] at hs
      split
      · rfl
      · rw [if_pos (by simp only at hs; omega)]
        rfl
  | succ pauses ih =>
    unfold await
    have hs := hlook s
    split
    · rfl
    · rename_i running s' heq
      rw [heq] at hs
      split
      · rfl
      split
      · rfl
      have hp := hpause s'
      split
      · rfl
      · rename_i s'' heq
        rw [heq] at hp
        refine ih s'' ?_
        have := hp rfl
        rw [Nat.succ_mul] at h
        simp only at hs this
        omega

end Polling

end Api

/-! ### Calls -/

open Kube

/-- The written form of an event. -/
def Notice.document (notice : Notice) (db : Postgres) (component now : String) : Json :=
  let metadata := db.metadata
  let given (name : String) (value : Option String) : List (String × Json) :=
    match value with
    | some value => [(name, .str value)]
    | none => []
  Json.object [
    ("apiVersion", .str "v1"), ("kind", .str "Event"),
    ("metadata", Json.object [("generateName", .str (db.name ++ "-")), ("namespace", .str db.ns)]),
    ("involvedObject", Json.object ([("apiVersion", .str "kubedb.com/v1alpha2"),
      ("kind", .str "Postgres")] ++ given "name" metadata.name ++ given "namespace" metadata.ns ++
      given "uid" metadata.uid)),
    ("type", .str notice.type.text), ("reason", .str notice.reason),
    ("message", .str notice.message), ("reportingComponent", .str component),
    ("firstTimestamp", .str now), ("lastTimestamp", .str now), ("count", .int 1)]

namespace Api.Client

variable {σ : Type}

/-- Names in a request may not be empty. -/
def checkName (name : String) : Except RequestFault Unit :=
  if name = "" then .error .emptyName else .ok ()

/-- The field manager of a write may not be long. -/
def checkManager (options : Options) (parameters : String) : Except RequestFault Unit :=
  if 128 < options.fieldManager.utf8ByteSize then .error (.longManager parameters) else .ok ()

def writeQuery (options : Options) : List (String × String) :=
  [("fieldManager", options.fieldManager)]

/-- Sends a request, if it could be made, and reads the response. -/
def ask {α : Type} (t : Transport σ) (request : Except RequestFault Request)
    (read : Response → Except Error α) (s : σ) : Except Error α × σ :=
  match request with
  | .error fault => (.error (.call (.invalid fault)), s)
  | .ok request =>
    let (response, s) := t.send request s
    (read response, s)

/-- Reads an object that may be missing. -/
def find (α : Type) [Record α] (t : Transport σ) (resource : Resource) (name : String) (s : σ) :
    Except Error (Option α) × σ :=
  let request := do
    checkName name
    Request.make .get resource none none
  ask t request (·.readMaybe (Record.read α)) s

def create (options : Options) (t : Transport σ) (kind : Kind) (ns : String) (object : kind.Object)
    (s : σ) : Except Error kind.Object × σ :=
  let request := do
    checkManager options "PostParams"
    Request.make .post (.objects kind ns) (writeQuery options) (Body.object (Record.encode object))
  ask t request (·.read (Record.read kind.Object)) s

def patch (options : Options) (t : Transport σ) (kind : Kind) (id : ObjectId) (patch : Json.Patch)
    (s : σ) : Except Error kind.Object × σ :=
  let request := do
    checkName id.name
    checkManager options "PatchParams"
    Request.make .patch (.object kind id) (writeQuery options) (Body.operations patch)
  ask t request (·.read (Record.read kind.Object)) s

/-- The number of running pods, or the greatest there is if there are more. -/
def countRunning (pods : List Pod) : Int32 :=
  Int32.ofInt (min ((pods.filter Pod.isRunning).length : Int) Int32.maxValue.toInt)

/-- Counts the running pods that a selector meets. -/
def lookAtPods (t : Transport σ) (ns selector : String) (s : σ) : Except Error Int32 × σ :=
  ask t (Request.make .get (.pods ns) (some [("labelSelector", selector)]) none)
    (fun response => (response.read (readListed Pod)).map countRunning) s

/-- The time between two looks at the pods, in milliseconds. It is not nothing, so that time
passes while pods are waited for. -/
def pollInterval (options : Options) : Nat := max 1 (1000 * options.readinessPoll)

/-- What waiting for pods makes use of. -/
def polling (options : Options) (t : Transport σ) (ns selector : String) : Polling σ where
  look := lookAtPods t ns selector
  millis := t.millis
  pause := t.pause (pollInterval options)

/-- Looking at pods does not turn the clock back. -/
theorem le_millis_lookAtPods (t : Transport σ) (ns selector : String) (s : σ) :
    t.millis s ≤ t.millis (lookAtPods t ns selector s).2 := by
  unfold lookAtPods ask
  split
  · exact Nat.le_refl _
  · exact t.le_millis_send _ _

/-- As many pauses of the poll interval as a wait of the given length may need. -/
def pauses (options : Options) (millis : Nat) : Nat :=
  (millis + (pollInterval options - 1)) / pollInterval options

theorem le_pauses_mul (options : Options) (millis : Nat) :
    millis ≤ pauses options millis * pollInterval options := by
  unfold pauses
  have hpos : 0 < pollInterval options := by unfold pollInterval; omega
  have hdiv := Nat.lt_div_mul_add (a := millis + (pollInterval options - 1)) hpos
  omega

/-- Waits for pods to run. -/
def awaitPods (options : Options) (t : Transport σ) (ns : String) (selector : Dict String)
    (count : Int32) (timeout : Nat) (s : σ) : Except Error Unit × σ :=
  let selector := Selector.text selector
  ((polling options t ns selector).await count (t.millis s + 1000 * timeout)
    (.readinessTimeout ns selector count) (pauses options (1000 * timeout) + 1) s).get
    (Polling.await_isSome _ _ _ _ (le_millis_lookAtPods t ns selector)
      (fun s h => t.le_millis_pause _ s h) _ s
      (Nat.add_le_add_left (le_pauses_mul options (1000 * timeout)) _))

/-- Tells an event to the server, if there is a way to tell it. -/
def emit (options : Options) (t : Transport σ) (db : Postgres) (notice : Notice) (s : σ) : σ :=
  let body := Body.object (notice.document db options.fieldManager (t.now s))
  (ask t (Request.make .post (.events db.ns) (some []) body) (fun _ => .ok ()) s).2

def answer (options : Options) (t : Transport σ) : (c : Call) → σ → c.Reply × σ
  | .get kind id, s => find kind.Object t (.object kind id) id.name s
  | .create kind ns object, s => create options t kind ns object s
  | .patch kind id ops, s => patch options t kind id ops s
  | .awaitPods ns selector count timeout, s => awaitPods options t ns selector count timeout s
  | .isCancelled, s => (t.isCancelled s, s)
  | .emit db notice, s => ((), emit options t db notice s)

end Api.Client

end PgOperator
