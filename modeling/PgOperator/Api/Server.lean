import PgOperator.Api.Transport
import PgOperator.Database.Instance
import PgOperator.Database.Version
import PgOperator.Json.Printer
import PgOperator.Memory

/-!
An API server in memory, with a clock that moves only when somebody waits. Objects are kept in
their written form, instances and releases are only read, and every request is remembered. A
`Disruption` makes requests fail or be answered otherwise, and the pods that are listed may begin
to run at a given time.
-/

namespace PgOperator.Api

/-- The phase of a pod: none, always the same one, or `Pending` until it runs. -/
inductive PodPhase where
  | absent
  | constant (phase : String)
  | runningFrom (millis : Nat)

def PodPhase.at? (millis : Nat) : PodPhase → Option String
  | .absent => none
  | .constant phase => some phase
  | .runningFrom start => some (if start ≤ millis then "Running" else "Pending")

structure ServedPod where
  name : String
  labels : Dict String
  phase : PodPhase

/-- The document of a pod at a time. -/
def ServedPod.document (pod : ServedPod) (millis : Nat) : Json :=
  Json.object ([
    ("apiVersion", .str "v1"), ("kind", .str "Pod"),
    ("metadata", Json.object [("name", .str pod.name),
      ("labels", (Shape.dict .text).encode pod.labels)])] ++
    match pod.phase.at? millis with
    | some phase => [("status", Json.object [("phase", .str phase)])]
    | none => [])

/-- A response that stands in for the server's own one, for requests of a method to paths that end
in a text, as many times as are left. -/
structure Disruption where
  method : String
  ending : String
  left : Option Nat
  response : Response

/-- Whether a disruption concerns a request. -/
def Disruption.concerns (d : Disruption) (request : Request) : Bool :=
  d.method = request.method.text ∧ d.left ≠ some 0 ∧ Text.endsWith request.uri.path d.ending

/-- The state of the server. A cancellation may be due at a time to come. -/
structure Server where
  objects : List (ObjectKey × Json) := []
  databases : List Postgres := []
  versions : List (String × PostgresVersion) := []
  pods : List ServedPod := []
  disruptions : List Disruption := []
  uids : Nat := 0
  clock : String := ""
  millis : Nat := 0
  cancelled : Bool := false
  cancelAt : Option Nat := none
  requests : List Request := []

namespace Server

def reply (code : UInt16) (doc : Json) : Response := ⟨code, doc.render⟩

def refuse (code : UInt16) (reason message : String) : Response :=
  reply code (Json.object [("status", .str "Failure"), ("message", .str message),
    ("reason", .str reason), ("code", .int code.toNat)])

/-- Refuses a request about something that is not there. -/
def notFound (name : String) : Response := refuse 404 "NotFound" (name ++ " not found")

def list (kind : String) (items : List Json) : Response :=
  reply 200 (Json.object [("apiVersion", .str "v1"), ("kind", .str kind),
    ("metadata", .obj []), ("items", .arr items)])

/-- Puts a new object in under the name that it carries, with a uid, unless it has one, and the
first resource version. -/
def create (server : Server) (kind : Kind) (ns : String) (doc : Json) : Response × Server :=
  let metadata := doc.getD "metadata"
  let name := (metadata.getD "name").text?.getD ""
  let key : ObjectKey := ⟨kind, ns, name⟩
  match Memory.lookup server.objects key with
  | some _ => (refuse 409 "AlreadyExists" (name ++ " already exists"), server)
  | none =>
    let uid := (metadata.get? "uid").getD (.str ("uid-" ++ toString (server.uids + 1)))
    let doc := Memory.withVersion (doc.set "metadata" (metadata.set "uid" uid)) "1"
    (reply 201 doc,
      { server with objects := Memory.store key doc server.objects, uids := server.uids + 1 })

/-- Carries out a patch on an object, unless that changes its resource version. -/
def patch (server : Server) (kind : Kind) (id : ObjectId) (patch : Json.Patch) :
    Response × Server :=
  let key : ObjectKey := ⟨kind, id.ns, id.name⟩
  match Memory.lookup server.objects key with
  | none => (notFound id.name, server)
  | some current =>
    match patch.apply current with
    | .error failure => (refuse 422 "Invalid" failure.message, server)
    | .ok patched =>
      if Memory.resourceVersion patched ≠ Memory.resourceVersion current then
        (refuse 409 "Conflict" (id.name ++ " has been modified"), server)
      else
        let patched :=
          Memory.withVersion patched (Memory.nextVersion (Memory.resourceVersion current))
        (reply 200 patched, { server with objects := Memory.store key patched server.objects })

/-- The pods whose labels meet the selector of a query. -/
def listPods (server : Server) (query : List (String × String)) : Response :=
  let selector := (Sorted.get? "labelSelector" (Sorted.ofList query)).getD ""
  list "PodList" ((server.pods.filter fun pod => Selector.isMetBy selector pod.labels).map
    (·.document server.millis))

/-- The server's own answer to a request about the resource that its path leads to. Events and
reports are sent back and not kept. -/
def handle (server : Server) (request : Request) : Response × Server :=
  match request.method, Resource.ofPath? request.uri.path, request.body with
  | .get, some (.object kind id), _ =>
    match Memory.lookup server.objects ⟨kind, id.ns, id.name⟩ with
    | some doc => (reply 200 doc, server)
    | none => (notFound id.name, server)
  | .post, some (.objects kind ns), some (.object doc) => server.create kind ns doc
  | .patch, some (.object kind id), some (.operations patch) => server.patch kind id patch
  | .get, some (.pods _), _ => (server.listPods request.uri.pairs, server)
  | .get, some .databases, _ =>
    (list "PostgresList" (server.databases.map Record.encode), server)
  | .get, some (.version name), _ =>
    match Sorted.get? name server.versions with
    | some version => (reply 200 (Record.encode version), server)
    | none => (notFound name, server)
  | .post, some (.events _), some body | .patch, some (.status _), some body =>
    (reply 200 body.toJson, server)
  | _, _, _ => (notFound request.uri.path, server)

/-- The first disruption that concerns a request, with one time less left to it afterwards. -/
def disrupt (request : Request) : List Disruption → Option (Response × List Disruption)
  | [] => none
  | d :: rest =>
    if d.concerns request then
      some (d.response, { d with left := d.left.map (· - 1) } :: rest)
    else (disrupt request rest).map fun (response, rest) => (response, d :: rest)

/-- Answers a request and remembers it. -/
def send (request : Request) (server : Server) : Response × Server :=
  let server := { server with requests := server.requests ++ [request] }
  match disrupt request server.disruptions with
  | some (response, disruptions) => (response, { server with disruptions })
  | none => server.handle request

/-- Lets time pass, up to a cancellation that comes first. -/
def pause (ms : Nat) (server : Server) : Bool × Server :=
  let later := { server with millis := server.millis + ms }
  if server.cancelled then (true, server)
  else
    match server.cancelAt with
    | none => (false, later)
    | some time =>
      if time ≤ server.millis + ms then
        (true, { server with millis := max server.millis time, cancelled := true })
      else (false, later)

/-- Cancels the pass when the given time has passed, or before, if that is due already. -/
def cancelAfter (ms : Nat) (server : Server) : Server :=
  let time := server.millis + ms
  { server with cancelAt := some (match server.cancelAt with
      | some due => min due time
      | none => time) }

theorem millis_create (server : Server) (kind : Kind) (ns : String) (doc : Json) :
    (server.create kind ns doc).2.millis = server.millis := by
  simp only [create]
  split <;> rfl

theorem millis_patch (server : Server) (kind : Kind) (id : ObjectId) (patch : Json.Patch) :
    (server.patch kind id patch).2.millis = server.millis := by
  simp only [Server.patch]
  split
  · rfl
  · split
    · rfl
    · split <;> rfl

theorem millis_handle (server : Server) (request : Request) :
    (server.handle request).2.millis = server.millis := by
  unfold handle
  split
  · split <;> rfl
  · exact millis_create ..
  · exact millis_patch ..
  · rfl
  · rfl
  · split <;> rfl
  all_goals rfl

/-- No time passes in a request. -/
theorem millis_send (request : Request) (server : Server) :
    (send request server).2.millis = server.millis := by
  simp only [send]
  split
  · rfl
  · exact millis_handle ..

def transport : Transport Server where
  send := send
  now := (·.clock)
  millis := (·.millis)
  isCancelled := (·.cancelled)
  pause := pause
  le_millis_send request server := Nat.le_of_eq (millis_send request server).symm
  le_millis_pause ms server := by
    unfold pause
    split
    · simp
    · split
      · simp
      · split <;> simp

end Server

end PgOperator.Api
